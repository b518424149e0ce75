import ImportOrder.Draft
import ImportOrder.Proofs.Text.Offsets

/-! The regions of a cut: which offsets they take besides the spans, and what stands between them. -/

namespace ImportOrder

namespace Text

/-- Some character between two offsets is not blank. -/
def InkBetween (text : Text) (start stop : Nat) : Prop :=
  ∃ place c, start ≤ place ∧ place < stop ∧ text[place]? = some c ∧ isBlank c = false

/-- Every character between two offsets is blank. -/
def BlankBetween (text : Text) (start stop : Nat) : Prop :=
  ∀ place c, start ≤ place → place < stop → text[place]? = some c → isBlank c = true

/-- A slice is blank when the characters between its offsets are. -/
theorem allBlank_slice_iff {text : Text} {start stop : Nat} :
    allBlank (slice text start stop) = true ↔ BlankBetween text start stop := by
  simp only [allBlank, List.all_eq_true]
  constructor
  · intro blank place c low high found
    apply blank c
    -- The character stands in the slice, at its distance from the start.
    apply List.mem_of_getElem? (i := place - start)
    rw [getElem?_slice, if_pos (by omega), ← found]
    congr 1
    omega
  · intro blank c member
    -- A character of the slice is one of the text, as far from the start of the slice.
    obtain ⟨place, found⟩ := List.mem_iff_getElem?.mp member
    rw [getElem?_slice] at found
    split at found
    · exact blank (start + place) c (by omega) (by omega) found
    · exact absurd found (by simp)

/-- Two offsets with no ink between them have blanks between them, and the other way round. -/
theorem inkBetween_iff_not_blank {text : Text} {start stop : Nat} :
    InkBetween text start stop ↔ ¬BlankBetween text start stop := by
  constructor
  · rintro ⟨place, c, low, high, found, inked⟩ blank
    rw [blank place c low high found] at inked
    exact Bool.noConfusion inked
  · intro some_ink
    -- Without ink every character in between would be blank.
    by_contra none_ink
    apply some_ink
    intro place c low high found
    by_contra inked
    exact none_ink ⟨place, c, low, high, found, by simpa using inked⟩

/-- Nothing stands between an offset and itself. -/
theorem blankBetween_self (text : Text) (place : Nat) : BlankBetween text place place := by
  intro other c low high
  omega

/-- Ink stays between offsets that are moved apart. -/
theorem InkBetween.mono {text : Text} {start stop low high : Nat} (ink : InkBetween text start stop)
    (left : low ≤ start) (right : stop ≤ high) : InkBetween text low high := by
  -- The same character serves as the witness.
  obtain ⟨place, c, after, before, found, inked⟩ := ink
  exact ⟨place, c, by omega, by omega, found, inked⟩

/-- What a line break starts with is made of blank characters. -/
theorem leadingBreak?_blank {text : Text} {width : Nat} (found : leadingBreak? text = some width) :
    width ≤ text.length ∧ ∀ c ∈ text.take width, isBlank c = true := by
  -- The three line breaks are the three ways in which a text can start with one.
  unfold leadingBreak? at found
  split at found
  · cases found
    exact ⟨by simp, by simp; decide⟩
  · cases found
    exact ⟨by simp, by simp; decide⟩
  · cases found
    exact ⟨by simp, by simp; decide⟩
  · cases found

end Text

namespace Draft

/-- Between two regions, the earlier one first, stands a character that is not blank. -/
def Fenced (text : Text) (regions : List Span) : Prop :=
  regions.Pairwise fun a b => Text.InkBetween text a.stop b.start

/-- Fenced regions come in ascending order and do not touch. -/
theorem Fenced.ascending {text : Text} {regions : List Span} (fenced : Fenced text regions) :
    regions.Pairwise fun a b => a.stop < b.start := by
  apply List.Pairwise.imp _ fenced
  -- The ink needs an offset of its own between the two.
  rintro a b ⟨place, c, low, high, -, -⟩
  omega

/-- Every bound of a merged region is a bound of a span. -/
theorem mem_mergeFrom {text : Text} {current region : Span} {spans : List Span}
    (member : region ∈ mergeFrom text current spans) :
    (∃ span ∈ current :: spans, region.start = span.start) ∧
      ∃ span ∈ current :: spans, region.stop = span.stop := by
  -- The open region changes as spans are taken in, so it is kept general.
  induction spans generalizing current with
  | nil =>
    simp only [mergeFrom, List.mem_singleton] at member
    subst region
    exact ⟨⟨current, by simp, rfl⟩, current, by simp, rfl⟩
  | cons span rest ih =>
    simp only [mergeFrom] at member
    split at member
    · -- The grown region keeps one start and takes the greater of two stops.
      obtain ⟨⟨first, firstMember, starts⟩, last, lastMember, stops⟩ := ih member
      constructor
      · rcases List.mem_cons.mp firstMember with same | member
        · exact ⟨current, by simp, by rw [starts, same]⟩
        · exact ⟨first, by simp [member], starts⟩
      · rcases List.mem_cons.mp lastMember with same | member
        · rw [same] at stops
          simp only at stops
          rcases Nat.le_total current.stop span.stop with le | le
          · exact ⟨span, by simp, by omega⟩
          · exact ⟨current, by simp, by omega⟩
        · exact ⟨last, by simp [member], stops⟩
    · rcases List.mem_cons.mp member with same | member
      · subst region
        exact ⟨⟨current, by simp, rfl⟩, current, by simp, rfl⟩
      · obtain ⟨⟨first, firstMember, starts⟩, last, lastMember, stops⟩ := ih member
        exact ⟨⟨first, List.mem_cons_of_mem _ firstMember, starts⟩, last,
          List.mem_cons_of_mem _ lastMember, stops⟩

/-- A region that only blanks keep from the next span grows up to the end of that span. -/
theorem mergeFrom_cons_blank {text : Text} {current span : Span} (rest : List Span)
    (before : current.stop ≤ span.start)
    (gap : Text.BlankBetween text current.stop span.start) :
    ∃ grown : Span, grown.start = current.start ∧ grown.stop = span.stop ∧
      mergeFrom text current (span :: rest) = mergeFrom text grown rest := by
  have ordered := span.ordered
  -- The blank gap is exactly the test for joining.
  have joined := Text.allBlank_slice_iff.mpr gap
  simp only [mergeFrom, if_pos joined]
  exact ⟨⟨current.start, max current.stop span.stop, by have := current.ordered; omega⟩, rfl,
    Nat.max_eq_right (by omega), rfl⟩

/-- Merging may as well begin with an empty region where the first span starts. -/
theorem merge_cons (text : Text) (span : Span) (rest : List Span) :
    merge text (span :: rest) =
      mergeFrom text ⟨span.start, span.start, Nat.le_refl _⟩ (span :: rest) := by
  -- The empty stretch in front of the first span is blank, so the span is joined at once.
  have nothing : Text.allBlank (Text.slice text span.start span.start) = true := by
    simp [Text.slice, Text.allBlank]
  obtain ⟨start, stop, ordered⟩ := span
  simp only [merge, mergeFrom, if_pos nothing, Nat.max_eq_right ordered]

/-- Merging gives at least one region. -/
theorem mergeFrom_ne_nil (text : Text) (current : Span) (spans : List Span) :
    mergeFrom text current spans ≠ [] := by
  induction spans generalizing current with
  | nil => simp [mergeFrom]
  | cons span rest ih =>
    simp only [mergeFrom]
    split
    · exact ih _
    · simp

/-- Merging leaves ink between the regions. -/
theorem mergeFrom_fenced (text : Text) {current : Span} {spans : List Span}
    (sorted : spans.Pairwise fun a b => a.start ≤ b.start) :
    Fenced text (mergeFrom text current spans) := by
  induction spans generalizing current with
  | nil => simp [mergeFrom, Fenced]
  | cons span rest ih =>
    obtain ⟨later, sorted⟩ := List.pairwise_cons.mp sorted
    simp only [mergeFrom]
    split
    · exact ih sorted
    · rename_i inked
      -- The span was not joined, which is what the ink in front of it shows.
      have fence : Text.InkBetween text current.stop span.start := by
        rw [Text.inkBetween_iff_not_blank, ← Text.allBlank_slice_iff]
        simpa using inked
      refine List.pairwise_cons.mpr ⟨?_, ih sorted⟩
      intro region member
      -- No region behind the fence starts in front of the span that the fence kept away.
      obtain ⟨⟨first, firstMember, starts⟩, -⟩ := mem_mergeFrom member
      have after : span.start ≤ first.start := by
        rcases List.mem_cons.mp firstMember with same | member
        · exact Nat.le_of_eq (by rw [same])
        · exact later first member
      exact fence.mono (Nat.le_refl _) (by omega)

/-- What a span covers, the regions cover. -/
theorem mergeFrom_covers (text : Text) {current : Span} {spans : List Span} {place : Nat}
    (sorted : (current :: spans).Pairwise fun a b => a.start ≤ b.start)
    (covered : Span.anyCovers (current :: spans) place = true) :
    Span.anyCovers (mergeFrom text current spans) place = true := by
  induction spans generalizing current with
  | nil => simpa [mergeFrom] using covered
  | cons span rest ih =>
    obtain ⟨later, sorted⟩ := List.pairwise_cons.mp sorted
    obtain ⟨hitSpan, hit, inside⟩ := Span.anyCovers_iff.mp covered
    have before : current.start ≤ span.start := later span (by simp)
    simp only [mergeFrom]
    split
    · -- The grown region still starts in front of all the spans that are left.
      apply ih
      · exact List.pairwise_cons.mpr
          ⟨fun other member => later other (by simp [member]), (List.pairwise_cons.mp sorted).2⟩
      · -- The grown region covers what either of its two parts covered.
        apply Span.anyCovers_iff.mpr
        have bounds := Span.covers_iff.mp inside
        rcases List.mem_cons.mp hit with same | hit
        · subst hitSpan
          exact ⟨_, List.mem_cons_self, Span.covers_iff.mpr (by simp only; omega)⟩
        · rcases List.mem_cons.mp hit with same | hit
          · subst hitSpan
            exact ⟨_, List.mem_cons_self, Span.covers_iff.mpr (by simp only; omega)⟩
          · exact ⟨hitSpan, List.mem_cons_of_mem _ hit, inside⟩
    · apply Span.anyCovers_iff.mpr
      rcases List.mem_cons.mp hit with same | hit
      · subst hitSpan
        exact ⟨_, List.mem_cons_self, inside⟩
      · -- The closed region covers nothing of what the later spans cover.
        have rest := ih sorted (Span.anyCovers_iff.mpr ⟨hitSpan, hit, inside⟩)
        obtain ⟨region, member, inside⟩ := Span.anyCovers_iff.mp rest
        exact ⟨region, List.mem_cons_of_mem _ member, inside⟩

/-- What the regions cover besides the spans is blank. -/
theorem mergeFrom_covers_ink {text : Text} {current : Span} {spans : List Span} {place : Nat}
    {c : Char} (found : text[place]? = some c) (inked : isBlank c = false)
    (covered : Span.anyCovers (mergeFrom text current spans) place = true) :
    Span.anyCovers (current :: spans) place = true := by
  induction spans generalizing current with
  | nil => simpa [mergeFrom] using covered
  | cons span rest ih =>
    simp only [mergeFrom] at covered
    split at covered
    · rename_i blank
      have gap := Text.allBlank_slice_iff.mp blank
      obtain ⟨hitSpan, hit, inside⟩ := Span.anyCovers_iff.mp (ih covered)
      apply Span.anyCovers_iff.mpr
      rcases List.mem_cons.mp hit with same | hit
      · -- Ink inside the grown region cannot stand in the blank gap, so a part covers it.
        subst hitSpan
        have bounds := Span.covers_iff.mp inside
        simp only at bounds
        by_cases first : place < current.stop
        · exact ⟨current, by simp, Span.covers_iff.mpr (by omega)⟩
        · have second : span.start ≤ place := by
            by_contra before
            have := gap place c (by omega) (by omega) found
            simp [this] at inked
          exact ⟨span, by simp, Span.covers_iff.mpr (by omega)⟩
      · exact ⟨hitSpan, by simp [hit], inside⟩
    · -- A region that was closed is one of the spans or was merged from later ones.
      obtain ⟨region, member, inside⟩ := Span.anyCovers_iff.mp covered
      apply Span.anyCovers_iff.mpr
      rcases List.mem_cons.mp member with same | member
      · exact ⟨current, by simp, same ▸ inside⟩
      · obtain ⟨hitSpan, hit, inside⟩ :=
          Span.anyCovers_iff.mp (ih (Span.anyCovers_iff.mpr ⟨region, member, inside⟩))
        exact ⟨hitSpan, List.mem_cons_of_mem _ hit, inside⟩

/-- Where the rest of a line ends, told by the blanks that follow a region and what is behind them. -/
theorem lineEnd_eq (text : Text) (stop : Nat) :
    lineEnd text stop = match (text.drop stop).dropWhile isInlineBlank with
      | [] => max stop text.length
      | rest => match Text.leadingBreak? rest with
        | some width => stop + ((text.drop stop).takeWhile isInlineBlank).length + width
        | none => stop := by
  -- Dropping as many characters as the run of blanks has leaves what is behind the run.
  have behind : (text.drop stop).drop ((text.drop stop).takeWhile isInlineBlank).length =
      (text.drop stop).dropWhile isInlineBlank := by
    conv_lhs => enter [2]; rw [← List.takeWhile_append_dropWhile (p := isInlineBlank)
      (l := text.drop stop)]
    exact List.drop_left
  rw [← behind]
  rfl

/-- The rest of a line that a region takes along is blank. -/
theorem lineEnd_blank (text : Text) (stop : Nat) :
    Text.BlankBetween text stop (lineEnd text stop) := by
  intro place c low high found
  -- Seen from the end of the region, the character is one of those that follow it.
  have there : (text.drop stop)[place - stop]? = some c := by
    rw [List.getElem?_drop, ← found]
    congr 1
    omega
  -- Spaces and tabs are blank.
  have runBlank : ∀ d ∈ (text.drop stop).takeWhile isInlineBlank, isBlank d = true := by
    intro d member
    have inlineBlank := List.all_eq_true.mp (List.all_takeWhile (l := text.drop stop)) d member
    simp only [isInlineBlank, Bool.or_eq_true, beq_iff_eq] at inlineBlank
    rcases inlineBlank with rfl | rfl <;> decide
  rw [lineEnd_eq] at high
  rw [← List.takeWhile_append_dropWhile (p := isInlineBlank) (l := text.drop stop)] at there
  -- The character stands in the run of blanks, or in what follows the run.
  generalize (text.drop stop).takeWhile isInlineBlank = run at there runBlank high
  generalize (text.drop stop).dropWhile isInlineBlank = rest at there high
  by_cases inRun : place - stop < run.length
  · rw [List.getElem?_append_left inRun] at there
    exact runBlank c (List.mem_of_getElem? there)
  · rw [List.getElem?_append_right (by omega)] at there
    split at high
    · simp at there
    · split at high
      · rename_i width isBreak
        -- Behind the run the line break alone is taken.
        obtain ⟨-, breakBlank⟩ := Text.leadingBreak?_blank isBreak
        apply breakBlank c
        apply List.mem_of_getElem? (i := place - stop - run.length)
        have below : place < stop + run.length + width := high
        rw [List.getElem?_take, if_pos (by omega)]
        exact there
      · omega

/-- The end of a line is not beyond the end of the text. -/
theorem lineEnd_le (text : Text) {stop : Nat} (inside : stop ≤ text.length) :
    lineEnd text stop ≤ text.length := by
  -- Neither the run of blanks nor the line break behind it reaches past the text.
  have run := (List.takeWhile_sublist (l := text.drop stop) isInlineBlank).length_le
  simp only [List.length_drop] at run
  simp only [lineEnd]
  split
  · omega
  · split
    · rename_i width isBreak
      obtain ⟨fits, -⟩ := Text.leadingBreak?_blank isBreak
      simp only [List.length_drop] at fits
      omega
    · exact inside

@[simp] theorem extend_start (text : Text) (region : Span) :
    (extend text region).start = region.start := by
  unfold extend
  split <;> rfl

/-- A region that starts a line grows to the end of it. -/
theorem extend_stop_of_begins {text : Text} {region : Span}
    (begins : beginsLine text region.start = true) :
    (extend text region).stop = lineEnd text region.stop := by
  rw [extend, if_pos begins]

/-- A region inside a line does not grow. -/
theorem extend_of_not_begins {text : Text} {region : Span}
    (inside : beginsLine text region.start = false) : extend text region = region := by
  rw [extend, inside]
  rfl

/-- A region only grows. -/
theorem le_extend_stop (text : Text) (region : Span) : region.stop ≤ (extend text region).stop := by
  unfold extend
  split
  · exact le_lineEnd text region.stop
  · exact Nat.le_refl _

/-- What a region grows over is blank. -/
theorem extend_blank (text : Text) (region : Span) :
    Text.BlankBetween text region.stop (extend text region).stop := by
  unfold extend
  split
  · exact lineEnd_blank text region.stop
  · -- A region inside a line does not grow, so there is nothing to show.
    intro place c low high
    omega

/-- A region inside the text grows inside the text. -/
theorem extend_stop_le (text : Text) {region : Span} (inside : region.stop ≤ text.length) :
    (extend text region).stop ≤ text.length := by
  unfold extend
  split
  · exact lineEnd_le text inside
  · exact inside

/-- Grown regions still have ink between them. -/
theorem Fenced.extend {text : Text} {regions : List Span} (fenced : Fenced text regions) :
    Fenced text (regions.map (extend text)) := by
  apply List.pairwise_map.mpr
  apply List.Pairwise.imp _ fenced
  rintro a b ⟨place, c, low, high, found, inked⟩
  refine ⟨place, c, ?_, by simpa using high, found, inked⟩
  -- The ink stops the growth of the region in front of it.
  by_contra past
  have := extend_blank text a place c low (by omega) found
  simp [this] at inked

/-- What it means that a span comes in front of another in a sort. -/
theorem precedes_iff {a b : Span} :
    Span.precedes a b = true ↔ a.start < b.start ∨ a.start = b.start ∧ a.stop ≤ b.stop := by
  simp [Span.precedes]

/-- A sort puts spans in order. -/
theorem mergeSort_sorted (spans : List Span) :
    (spans.mergeSort Span.precedes).Pairwise fun a b => Span.precedes a b = true := by
  -- The order is transitive and total, which is all that the sort asks for.
  apply List.pairwise_mergeSort
  · intro a b c first second
    rw [precedes_iff] at first second ⊢
    omega
  · intro a b
    rw [Bool.or_eq_true, precedes_iff, precedes_iff]
    omega

/-- Sorted spans come in the order of their starts. -/
theorem mergeSort_starts (spans : List Span) :
    (spans.mergeSort Span.precedes).Pairwise fun a b => a.start ≤ b.start := by
  apply List.Pairwise.imp _ (mergeSort_sorted spans)
  intro a b ordered
  rw [precedes_iff] at ordered
  omega

/-- A sort gives the same list, in whatever order the spans come. -/
theorem mergeSort_eq_of_perm {spans others : List Span} (perm : spans.Perm others) :
    spans.mergeSort Span.precedes = others.mergeSort Span.precedes := by
  -- Both sorts hold the same spans.
  have sorted := (List.mergeSort_perm spans Span.precedes).trans
    (perm.trans (List.mergeSort_perm others Span.precedes).symm)
  apply List.Perm.eq_of_pairwise _ (mergeSort_sorted spans) (mergeSort_sorted others) sorted
  rintro ⟨start, stop, _⟩ ⟨start', stop', _⟩ - - first second
  rw [precedes_iff] at first second
  -- Spans with the same two bounds are the same span.
  simp only [Span.mk.injEq] at first second ⊢
  omega

/-- Spans that come one behind the other are sorted already. -/
theorem mergeSort_of_ascending {spans : List Span}
    (ascending : spans.Pairwise fun a b => a.stop ≤ b.start) :
    spans.mergeSort Span.precedes = spans := by
  apply List.mergeSort_of_pairwise
  apply List.Pairwise.imp _ ascending
  -- A span that stops where the next one starts cannot start behind it.
  intro a b before
  have first := a.ordered
  have second := b.ordered
  rw [precedes_iff]
  omega

/-- The spans in order, merged from the first one on; without spans there is nothing to merge. -/
theorem regions_eq (text : Text) {spans : List Span} (some_span : spans ≠ []) :
    ∃ first rest, spans.Perm (first :: rest) ∧
      (first :: rest).Pairwise (fun a b => a.start ≤ b.start) ∧
      regions text spans = (mergeFrom text first rest).map (extend text) := by
  have starts := mergeSort_starts spans
  have perm := List.mergeSort_perm spans Span.precedes
  unfold regions
  -- Sorting keeps the spans, so there is a first one.
  cases sorted : spans.mergeSort Span.precedes with
  | nil =>
    rw [sorted] at perm
    exact absurd perm.symm.eq_nil some_span
  | cons first rest =>
    rw [sorted] at perm starts
    exact ⟨first, rest, perm.symm, starts, rfl⟩

/-- A cut of some spans has regions. -/
theorem regions_ne_nil (text : Text) {spans : List Span} (some_span : spans ≠ []) :
    regions text spans ≠ [] := by
  obtain ⟨first, rest, -, -, shape⟩ := regions_eq text some_span
  rw [shape]
  simpa using mergeFrom_ne_nil text first rest

/-- The regions of a cut have ink between them. -/
theorem regions_fenced (text : Text) (spans : List Span) : Fenced text (regions text spans) := by
  by_cases empty : spans = []
  · subst empty
    simp [regions, merge, Fenced]
  · obtain ⟨first, rest, -, sorted, shape⟩ := regions_eq text empty
    rw [shape]
    -- Growing a region never reaches across the ink that fences it.
    exact (mergeFrom_fenced text (List.pairwise_cons.mp sorted).2).extend

/-- Every region grew from a stretch that starts where a span starts and stops where one stops. -/
theorem mem_regions {text : Text} {spans : List Span} {region : Span}
    (member : region ∈ regions text spans) :
    ∃ merged, region = extend text merged ∧ (∃ span ∈ spans, merged.start = span.start) ∧
      ∃ span ∈ spans, merged.stop = span.stop := by
  by_cases empty : spans = []
  · subst empty
    simp [regions, merge] at member
  · obtain ⟨first, rest, perm, -, shape⟩ := regions_eq text empty
    rw [shape] at member
    obtain ⟨merged, inMerged, grown⟩ := List.mem_map.mp member
    obtain ⟨⟨head, inHead, starts⟩, last, inLast, stops⟩ := mem_mergeFrom inMerged
    -- The sort has only changed the order of the spans.
    exact ⟨merged, grown.symm, ⟨head, perm.mem_iff.mpr inHead, starts⟩, last,
      perm.mem_iff.mpr inLast, stops⟩

/-- No region starts in front of all the spans. -/
theorem regions_start {text : Text} {spans : List Span} {region : Span}
    (member : region ∈ regions text spans) : ∃ span ∈ spans, region.start = span.start := by
  obtain ⟨merged, rfl, ⟨span, inSpans, starts⟩, -⟩ := mem_regions member
  exact ⟨span, inSpans, by rw [extend_start, starts]⟩

/-- Regions of spans inside the text lie inside the text. -/
theorem regions_stop_le {text : Text} {spans : List Span} {region : Span}
    (inside : ∀ span ∈ spans, span.stop ≤ text.length) (member : region ∈ regions text spans) :
    region.stop ≤ text.length := by
  obtain ⟨merged, rfl, -, span, inSpans, stops⟩ := mem_regions member
  -- The stretch stops with a span, and growth stays inside the text.
  have bound := inside span inSpans
  exact extend_stop_le text (by omega)

/-- The regions cover what the spans cover. -/
theorem regions_covers {text : Text} {spans : List Span} {place : Nat}
    (covered : Span.anyCovers spans place = true) :
    Span.anyCovers (regions text spans) place = true := by
  obtain ⟨span, member, inside⟩ := Span.anyCovers_iff.mp covered
  obtain ⟨first, rest, perm, sorted, shape⟩ := regions_eq text (List.ne_nil_of_mem member)
  have merged := mergeFrom_covers text sorted
    (Span.anyCovers_iff.mpr ⟨span, perm.mem_iff.mp member, inside⟩)
  obtain ⟨region, member, inside⟩ := Span.anyCovers_iff.mp merged
  rw [shape]
  apply Span.anyCovers_iff.mpr
  refine ⟨extend text region, List.mem_map_of_mem member, Span.covers_iff.mpr ?_⟩
  -- A region keeps its start and only grows behind its stop.
  have bounds := Span.covers_iff.mp inside
  have grows := le_extend_stop text region
  rw [extend_start]
  omega

/-- The regions cover no ink besides what the spans cover. -/
theorem regions_covers_ink {text : Text} {spans : List Span} {place : Nat} {c : Char}
    (found : text[place]? = some c) (inked : isBlank c = false)
    (covered : Span.anyCovers (regions text spans) place = true) :
    Span.anyCovers spans place = true := by
  by_cases empty : spans = []
  · subst empty
    simp [regions, merge, Span.anyCovers] at covered
  · obtain ⟨first, rest, perm, -, shape⟩ := regions_eq text empty
    rw [shape] at covered
    obtain ⟨grown, member, inside⟩ := Span.anyCovers_iff.mp covered
    obtain ⟨region, inMerged, rfl⟩ := List.mem_map.mp member
    have bounds := Span.covers_iff.mp inside
    rw [extend_start] at bounds
    -- The ink is in front of where the region began to grow.
    have before : place < region.stop := by
      by_contra past
      have := extend_blank text region place c (by omega) (by omega) found
      simp [this] at inked
    have merged : Span.anyCovers (mergeFrom text first rest) place = true :=
      Span.anyCovers_iff.mpr ⟨region, inMerged, Span.covers_iff.mpr (by omega)⟩
    obtain ⟨span, member, inside⟩ :=
      Span.anyCovers_iff.mp (mergeFrom_covers_ink found inked merged)
    exact Span.anyCovers_iff.mpr ⟨span, perm.mem_iff.mpr member, inside⟩

end Draft

end ImportOrder
