import ImportOrder.Proofs.Draft.Regions

/-! What is left of a draft when spans are cut out of it. -/

namespace ImportOrder

namespace Draft

/-- Cutting ascending regions keeps exactly the characters that none of them covers. -/
theorem keepFrom_eq_keepWhere {offset : Nat} {text : Text} {regions : List Span}
    (ascending : regions.Pairwise fun a b => a.stop ≤ b.start)
    (ahead : ∀ region ∈ regions, offset ≤ region.start) :
    keepFrom offset text regions =
      text.keepWhere (fun place => !Span.anyCovers regions place) offset := by
  -- Every region uses up the text in front of it, so offset and text vary together.
  induction regions generalizing offset text with
  | nil => exact (Text.keepWhere_eq_self fun _ _ _ => by simp [Span.anyCovers]).symm
  | cons region rest ih =>
    obtain ⟨later, ascending⟩ := List.pairwise_cons.mp ascending
    have ordered := region.ordered
    have first := ahead region (by simp)
    -- The text is what stands in front of the region, the region, and what is left to cut.
    have parts := Text.take_slice_drop text
      (show region.start - offset ≤ region.stop - offset by omega)
    conv_rhs => rw [← parts]
    rw [Text.keepWhere_append, Text.keepWhere_append, keepFrom, ih ascending later]
    -- No region reaches into what stands in front of the first one.
    have front : ∀ other ∈ region :: rest,
        offset + (text.take (region.start - offset)).length ≤ other.start := by
      intro other member
      rw [List.length_take]
      rcases List.mem_cons.mp member with same | member
      · rw [same]
        omega
      · have next := later other member
        omega
    -- The part between its bounds is covered by the region itself.
    have middle : ∀ place, offset + (text.take (region.start - offset)).length ≤ place →
        place < offset + (text.take (region.start - offset)).length +
          (Text.slice text (region.start - offset) (region.stop - offset)).length →
        region.covers place = true := by
      intro place low high
      simp only [Text.slice, List.length_take, List.length_drop] at low high
      exact Span.covers_iff.mpr (by omega)
    rw [Text.keepWhere_before front, Text.keepWhere_held (List.mem_cons_self ..) middle,
      List.append_nil]
    congr 1
    by_cases short : text.length ≤ region.stop - offset
    · -- The text ends with the region or in front of its end, and nothing is left to keep.
      rw [List.drop_eq_nil_of_le short]
      rfl
    · have width : offset + (text.take (region.start - offset) ++
          Text.slice text (region.start - offset) (region.stop - offset)).length = region.stop := by
        simp only [Text.slice, List.length_append, List.length_take, List.length_drop]
        omega
      rw [width, Text.keepWhere_behind rest _ (Nat.le_refl _)]

/-- A cut in place looks at all spans, then at the regions, and then leaves what is outside them. -/
theorem run_cutOut (draft : Draft) (spans : List Span) :
    (cutOut spans).run draft =
      match (spans.mergeSort Span.precedes).find? fun span => draft.length < span.stop with
      | some span => (.error (.spanOutside span draft.length), draft)
      | none =>
        match regions draft.text spans with
        | [] => (.ok draft.length, draft)
        | found => (.ok (keepFrom 0 draft.text found).length,
          ⟨keepFrom 0 draft.text found, takesFinalBreak draft.text found⟩) := by
  -- The check, the state that it reads and the cut are opened one behind the other.
  simp only [cutOut, ExceptT.run, bind, ExceptT.bind, ExceptT.mk, StateT.bind, get, getThe,
    MonadStateOf.get, liftM, monadLift, MonadLift.monadLift, ExceptT.lift, StateT.get, Functor.map,
    StateT.map, pure, ExceptT.bindCont]
  cases (spans.mergeSort Span.precedes).find? fun span => draft.length < span.stop with
  | some span => rfl
  | none => cases regions draft.text spans <;> rfl

/-- The check in front of a cut finds no span, if all of them end inside the draft. -/
theorem find?_beyond_eq_none {draft : Draft} {spans : List Span}
    (inside : ∀ span ∈ spans, span.stop ≤ draft.length) :
    (spans.mergeSort Span.precedes).find? (fun span => draft.length < span.stop) = none := by
  apply List.find?_eq_none.mpr
  intro span member
  rw [decide_eq_true_eq]
  exact Nat.not_lt.mpr (inside span (List.mem_mergeSort.mp member))

/-- A cut in place tells the length of what it leaves. -/
theorem run_cutOut_of_remove {draft rest : Draft} {spans : List Span}
    (removed : draft.remove spans = .ok rest) :
    (cutOut spans).run draft = (.ok rest.length, rest) := by
  unfold remove at removed
  rw [run_cutOut] at removed ⊢
  cases found : (spans.mergeSort Span.precedes).find? fun span => draft.length < span.stop with
  | some span => simp [found] at removed
  | none =>
    simp only [found] at removed ⊢
    cases shape : regions draft.text spans with
    | nil =>
      simp only [shape, Except.ok.injEq] at removed
      rw [removed]
    | cons region others =>
      simp only [shape, Except.ok.injEq] at removed
      rw [← removed]
      rfl

/-- Spans that end inside the draft can be cut. -/
theorem remove_eq_ok {draft : Draft} {spans : List Span}
    (inside : ∀ span ∈ spans, span.stop ≤ draft.text.length) (some_span : spans ≠ []) :
    draft.remove spans = .ok ⟨keepFrom 0 draft.text (regions draft.text spans),
      takesFinalBreak draft.text (regions draft.text spans)⟩ := by
  unfold remove
  rw [run_cutOut, find?_beyond_eq_none inside]
  cases found : regions draft.text spans with
  | nil => exact absurd found (regions_ne_nil draft.text some_span)
  | cons region rest => rfl

/-- What a cut keeps: the characters that no region covers. -/
theorem keepFrom_regions (text : Text) (spans : List Span) :
    keepFrom 0 text (regions text spans) = text.outside (regions text spans) := by
  -- Regions with ink between them cannot overlap.
  have ascending := (regions_fenced text spans).ascending
  exact keepFrom_eq_keepWhere (ascending.imp fun before => Nat.le_of_lt before) (by simp)

/-- A cut takes no ink besides that of the spans. -/
theorem ink_outside_regions (text : Text) (spans : List Span) :
    Text.ink (text.outside (regions text spans)) = Text.ink (text.outside spans) := by
  apply Text.ink_keepWhere_congr
  intro place c found inked
  -- Where there is ink, regions and spans cover the same.
  congr 1
  rw [Bool.eq_iff_iff]
  exact ⟨regions_covers_ink found inked, regions_covers⟩

/-- A cut leaves everything in front of the first span in its place. -/
theorem take_outside_regions {text : Text} {spans : List Span} {place : Nat}
    (inside : place ≤ text.length) (first : ∀ span ∈ spans, place ≤ span.start) :
    (text.outside (regions text spans)).take place = text.take place ∧
      place ≤ (text.outside (regions text spans)).length := by
  have ahead : ∀ region ∈ regions text spans, 0 + (text.take place).length ≤ region.start := by
    intro region member
    -- A region in front of the place would need a span that starts there.
    obtain ⟨span, inSpans, starts⟩ := regions_start member
    have low := first span inSpans
    rw [List.length_take]
    omega
  -- What is kept falls into the part in front of the place and the rest.
  have split : text.outside (regions text spans) = text.take place ++
      Text.keepWhere (fun place => !Span.anyCovers (regions text spans) place)
        (0 + (text.take place).length) (text.drop place) := by
    conv_lhs => rw [Text.outside, ← List.take_append_drop place text, Text.keepWhere_append]
    rw [List.take_append_drop, Text.keepWhere_before ahead]
  have width : (text.take place).length = place := by
    rw [List.length_take]
    omega
  constructor
  · rw [split, List.take_left' width]
  · rw [split, List.length_append, width]
    omega

/-- A single region in the middle of a text is taken out of it. -/
theorem keepFrom_single {front middle behind : Text} {region : Span}
    (starts : region.start = front.length)
    (stops : region.stop = front.length + middle.length) :
    keepFrom 0 (front ++ middle ++ behind) [region] = front ++ behind := by
  simp [keepFrom, starts, stops]

end Draft

end ImportOrder
