import ImportOrder.Proofs.Text.Lines

/-! Lines that no span touches come through a cut whole: each begins a line again, and they keep their
order. -/

namespace ImportOrder

namespace Text

/-- Whether a character that is not blank stands at an offset. -/
def inkAt (text : Text) (place : Nat) : Bool := text[place]?.any fun c => !isBlank c

/-- Where ink stands, no line is broken. -/
theorem not_isBreakChar_of_inkAt {text : Text} {place : Nat} {c : Char}
    (inked : text.inkAt place = true) (found : text[place]? = some c) : isBreakChar c = false := by
  rw [inkAt, found, Option.any_some, Bool.not_eq_true'] at inked
  exact not_isBreakChar_of_not_isBlank inked

/-- The blank rest of a line is spaces and tabs and at most one line break, and it stands behind the
offset. -/
theorem BlankLineRest.parts {text tail : Text} {stop : Nat} (rest : BlankLineRest text stop tail) :
    ∃ blanks mark after, (∀ c ∈ blanks, isInlineBlank c = true) ∧ tail = blanks ++ mark ∧
      text.drop stop = tail ++ after ∧ (mark = [] ∨ BreakBefore mark after) := by
  -- The two ways of ending are put into one form, with nothing for a line break at the end of the
  -- text.
  obtain ⟨blanks, inlineBlank, ⟨whole, rfl⟩ | ⟨mark, behind, isBreak, whole, rfl⟩⟩ := rest
  · exact ⟨tail, [], [], inlineBlank, by simp, by simpa using whole, .inl rfl⟩
  · exact ⟨blanks, mark, behind, inlineBlank, rfl, by simpa using whole, .inr isBreak⟩

/-- In the blank rest of a line nothing follows a character that breaks the line, unless it is the line
feed of the same line break. -/
theorem BlankLineRest.feed {text tail : Text} {stop place : Nat} {c d : Char}
    (rest : BlankLineRest text stop tail) (low : stop ≤ place)
    (high : place + 1 < stop + tail.length) (here : text[place]? = some c)
    (next : text[place + 1]? = some d) (breaks : isBreakChar c = true) : d = '\n' := by
  obtain ⟨blanks, mark, after, inlineBlank, rfl, whole, ends⟩ := rest.parts
  -- Both characters stand in the rest of the line.
  have inside : ∀ index e, index < (blanks ++ mark).length → text[stop + index]? = some e →
      (blanks ++ mark)[index]? = some e := by
    intro index e within found
    rw [← List.getElem?_drop, whole, List.getElem?_append_left within] at found
    exact found
  have here' := inside (place - stop) c (by omega) (by rwa [Nat.add_sub_cancel' low])
  have next' := inside (place - stop + 1) d (by omega) (by rwa [← Nat.add_assoc, Nat.add_sub_cancel' low])
  -- Spaces and tabs break no line, so the first of them opens the line break.
  have opens : blanks.length ≤ place - stop := by
    by_contra early
    rw [List.getElem?_append_left (by omega)] at here'
    have blank := inlineBlank c (List.mem_of_getElem? here')
    simp only [isInlineBlank, isBreakChar, Bool.or_eq_true, beq_iff_eq] at blank breaks
    rcases blank with rfl | rfl <;> simp at breaks
  rw [List.getElem?_append_right opens] at here'
  rw [List.getElem?_append_right (by omega)] at next'
  rw [Nat.sub_add_comm opens] at next'
  generalize place - stop - blanks.length = index at here' next'
  -- Only the line break of two characters has one behind another.
  rcases ends with rfl | rfl | rfl | ⟨rfl, -⟩
  · simp at here'
  · cases index with
    | zero => simpa using next'.symm
    | succ index => simp at next'
  · simp at next'
  · simp at next'

end Text

/-- A span of a text with ink at both of its ends, as that of a statement or a comment. -/
structure Span.Inked (text : Text) (span : Span) : Prop where
  -- An empty span has no ends at which ink could stand.
  filled : span.start < span.stop
  first : text.inkAt span.start = true
  last : text.inkAt (span.stop - 1) = true

/-- A span that ends with ink ends in the text. -/
theorem Span.Inked.stop_le {text : Text} {span : Span} (inked : span.Inked text) :
    span.stop ≤ text.length := by
  have last := inked.last
  have filled := inked.filled
  by_contra beyond
  rw [Text.inkAt, List.getElem?_eq_none (by omega)] at last
  contradiction

namespace Draft

/-- A line with ink on it that no span touches. -/
structure Untouched (text : Text) (spans : List Span) (start : Nat) (line : Text) : Prop where
  isLine : text.LineAt start line
  inked : Text.ink line ≠ []
  -- A span may end where the line begins, or begin where it ends.
  clear : ∀ span ∈ spans, span.stop ≤ start ∨ start + line.length ≤ span.start

section Untouched

variable {text line : Text} {spans : List Span} {start : Nat}

/-- An untouched line with what is around it: it begins a line, and its own text is not empty. -/
theorem Untouched.parts (untouched : Untouched text spans start line) :
    ∃ front behind body mark, text = front ++ (line ++ behind) ∧ front.length = start ∧
      Text.LineStart front (line ++ behind) ∧ line = body ++ mark ∧ Text.Plain body ∧ body ≠ [] ∧
      (Text.BreakBefore mark behind ∨ mark = [] ∧ behind = []) := by
  obtain ⟨front, behind, body, mark, whole, width, begins, shape, plain, ends⟩ :=
    untouched.isLine.parts
  refine ⟨front, behind, body, mark, whole, width, begins, shape, plain, ?_, ends⟩
  rintro rfl
  -- A line break alone holds no ink.
  have inked := untouched.inked
  rw [shape, List.nil_append] at inked
  rcases ends with (rfl | rfl | ⟨rfl, -⟩) | ⟨rfl, -⟩ <;> exact inked (by decide)

/-- Ink stands between the two ends of an untouched line. -/
theorem Untouched.inkBetween (untouched : Untouched text spans start line) :
    Text.InkBetween text start (start + line.length) := by
  obtain ⟨front, behind, -, -, rfl, rfl, -⟩ := untouched.parts
  -- Any character with ink will do; its place in the line gives its place in the text.
  obtain ⟨c, member⟩ := List.exists_mem_of_ne_nil _ untouched.inked
  simp only [Text.ink, List.mem_filter, Bool.not_eq_true'] at member
  obtain ⟨index, bound, found⟩ := List.mem_iff_getElem.mp member.1
  refine ⟨front.length + index, c, by omega, by omega, ?_, member.2⟩
  rw [List.getElem?_append_right (by omega), Nat.add_sub_cancel_left,
    List.getElem?_append_left bound, List.getElem?_eq_getElem bound, found]

/-- The first character of an untouched line breaks no line. -/
theorem Untouched.head (untouched : Untouched text spans start line) :
    ∃ c, text[start]? = some c ∧ line.head? = some c ∧ isBreakChar c = false := by
  obtain ⟨front, behind, body, mark, rfl, rfl, -, rfl, plain, some_char, -⟩ := untouched.parts
  obtain ⟨c, more, rfl⟩ := List.exists_cons_of_ne_nil some_char
  refine ⟨c, ?_, rfl, plain c (by simp)⟩
  rw [List.getElem?_append_right (Nat.le_refl _), Nat.sub_self]
  rfl

/-- In front of an untouched line that is not the first one stands a character that breaks lines. -/
theorem Untouched.opens (untouched : Untouched text spans start line) (later : start ≠ 0) :
    ∃ c, text[start - 1]? = some c ∧ isBreakChar c = true := by
  obtain ⟨front, behind, -, -, rfl, rfl, begins, -⟩ := untouched.parts
  rcases begins with rfl | ⟨c, final, breaks, -⟩
  · contradiction
  · refine ⟨c, ?_, breaks⟩
    rw [List.getElem?_append_left (by omega), ← List.getLast?_eq_getElem?]
    exact final

/-- A span that ends in front of the end of an untouched line ends in front of the line, with
something in between. -/
theorem Untouched.before (untouched : Untouched text spans start line) {span : Span}
    (member : span ∈ spans) (inked : span.Inked text) (early : span.stop < start + line.length) :
    span.stop < start := by
  have filled := inked.filled
  have near : span.stop ≤ start := by
    rcases untouched.clear span member with before | behind
    · exact before
    · omega
  -- The span ends with ink, and in front of the line stands a line break.
  by_contra touching
  have same : span.stop = start := by omega
  obtain ⟨c, found, breaks⟩ := untouched.opens (by omega)
  rw [Text.not_isBreakChar_of_inkAt (same ▸ inked.last) found] at breaks
  contradiction

/-- A cut takes nothing of an untouched line. -/
theorem Untouched.kept (untouched : Untouched text spans start line)
    (inked : ∀ span ∈ spans, span.Inked text) {place : Nat} (low : start ≤ place)
    (high : place < start + line.length) :
    Span.anyCovers (regions text spans) place = false := by
  rw [Bool.eq_false_iff]
  intro covered
  -- A cut could take an offset in three ways, and none of them reaches into the line.
  rcases regions_cover_iff.mp covered with ⟨span, member, first, last⟩ |
    ⟨gapStart, gapStop, gap, blank, first, last⟩ |
    ⟨region, tail, merged, -, rest, first, last⟩
  · rcases untouched.clear span member with before | behind <;> omega
  · -- The spans around a gap lie on both sides of the line, so its ink would be in the gap.
    obtain ⟨left, inLeft, -, ends⟩ := gap.ends
    obtain ⟨right, inRight, begins⟩ := gap.starts
    have before := untouched.before inLeft (inked left inLeft) (by omega)
    have behind : start + line.length ≤ right.start := by
      have filled := (inked right inRight).filled
      rcases untouched.clear right inRight with before | behind <;> omega
    exact Text.inkBetween_iff_not_blank.mp
      (untouched.inkBetween.mono (by omega) (by omega)) blank
  · -- The rest of a line ends with its line break, which stands in front of this line.
    obtain ⟨last', inLast, stops⟩ := merged.stops
    have before := untouched.before inLast (inked last' inLast) (by omega)
    obtain ⟨c, found, breaks⟩ := untouched.opens (by omega)
    obtain ⟨d, found', -, plain⟩ := untouched.head
    have feed := rest.feed (by omega) (by omega) found
      (by rwa [Nat.sub_add_cancel (by omega)]) breaks
    rw [feed] at plain
    contradiction

/-- A region that reaches an untouched line has taken everything back to the start of a line. -/
theorem Untouched.region (untouched : Untouched text spans start line)
    (inked : ∀ span ∈ spans, span.Inked text) (later : start ≠ 0) {region : Span}
    (member : region ∈ regions text spans) (covers : region.covers (start - 1) = true) :
    region.stop = start ∧ beginsLine text region.start = true := by
  obtain ⟨low, high⟩ := Span.covers_iff.mp covers
  -- The first character of the line is kept, so the region stops there.
  have stop : region.stop = start := by
    by_contra longer
    have width : 0 < line.length := by
      obtain ⟨c, -, head, -⟩ := untouched.head
      cases line with
      | nil => contradiction
      | cons c more => simp
    have free := untouched.kept inked (Nat.le_refl start) (by omega)
    rw [Bool.eq_false_iff] at free
    exact free (Span.anyCovers_iff.mpr ⟨region, member, Span.covers_iff.mpr (by omega)⟩)
  refine ⟨stop, ?_⟩
  -- A region of the cut is a merged region that may have grown, and ends with one of the spans
  -- before it grows.
  obtain ⟨merged, rfl, -, span, inSpans, stops⟩ := mem_regions member
  by_contra inLine
  rw [extend_start] at inLine
  -- A region inside a line ends where a span ends, with ink and not with a line break.
  rw [extend_of_not_begins (by simpa using inLine)] at stop
  obtain ⟨c, found, breaks⟩ := untouched.opens later
  have last := (inked span inSpans).last
  rw [← stops, stop] at last
  rw [Text.not_isBreakChar_of_inkAt last found] at breaks
  contradiction

end Untouched

/-- What a cut of spans leaves of the characters in front of an offset. -/
def leftBefore (text : Text) (spans : List Span) (place : Nat) : Text :=
  Text.keepWhere (fun place => !Span.anyCovers (regions text spans) place) 0 (text.take place)

/-- The character in front of an offset is the last one that a cut leaves there, if it leaves it. -/
theorem getLast?_leftBefore {text : Text} {spans : List Span} {place : Nat} {c : Char}
    (later : place ≠ 0) (found : text[place - 1]? = some c)
    (free : Span.anyCovers (regions text spans) (place - 1) = false) :
    (leftBefore text spans place).getLast? = some c := by
  obtain ⟨before, rfl⟩ := Nat.exists_eq_succ_of_ne_zero later
  rw [Nat.succ_sub_one] at found free
  have width : (text.take before).length = before := by
    have bound := (List.getElem?_eq_some_iff.mp found).1
    rw [List.length_take]
    omega
  -- The offsets end with the one of this character, which is kept.
  have kept : Text.keepWhere (fun place => !Span.anyCovers (regions text spans) place)
      (0 + (text.take before).length) [c] = [c] := by
    apply Text.keepWhere_eq_self
    intro place low high
    obtain rfl : place = before := by
      simp only [List.length_singleton] at high
      omega
    rw [free]
    rfl
  rw [leftBefore, List.take_add_one, found, Option.toList_some, Text.keepWhere_append, kept]
  simp

/-- The character in front of a region is not cut. -/
theorem free_before_region {text : Text} {spans : List Span} {region : Span}
    (member : region ∈ regions text spans) (later : region.start ≠ 0) :
    Span.anyCovers (regions text spans) (region.start - 1) = false := by
  rw [Bool.eq_false_iff]
  intro covered
  obtain ⟨other, member', covers⟩ := Span.anyCovers_iff.mp covered
  obtain ⟨low, high⟩ := Span.covers_iff.mp covers
  have ordered := region.ordered
  -- Two regions do not touch, whichever comes first.
  have ascending := (regions_fenced text spans).ascending
  have compared : (regions text spans).Pairwise fun a b =>
      a = b ∨ a.stop < b.start ∨ b.stop < a.start := ascending.imp fun before => .inr (.inl before)
  have flipped : (regions text spans).Pairwise
      (flip fun a b => a = b ∨ a.stop < b.start ∨ b.stop < a.start) :=
    ascending.imp fun before => .inr (.inr before)
  -- A region that covered the offset would touch this one.
  rcases compared.forall_of_forall_of_flip (fun _ _ => .inl rfl) flipped member member' with
    rfl | before | behind <;> omega

section Untouched

variable {text line : Text} {spans : List Span} {start : Nat}

/-- What a cut leaves in front of an untouched line is nothing at all, or ends with a character that
breaks lines. -/
theorem Untouched.leftBefore_ends (untouched : Untouched text spans start line)
    (inked : ∀ span ∈ spans, span.Inked text) :
    leftBefore text spans start = [] ∨
      ∃ c, (leftBefore text spans start).getLast? = some c ∧ isBreakChar c = true := by
  by_cases first : start = 0
  · left
    rw [first]
    rfl
  obtain ⟨c, found, breaks⟩ := untouched.opens first
  cases covered : Span.anyCovers (regions text spans) (start - 1) with
  | false => exact .inr ⟨c, getLast?_leftBefore first found covered, breaks⟩
  | true =>
    -- The line break in front of the line goes with all that stands before it on its own line.
    obtain ⟨region, member, covers⟩ := Span.anyCovers_iff.mp covered
    obtain ⟨stop, begins⟩ := untouched.region inked first member covers
    have ordered := region.ordered
    have back : leftBefore text spans start = leftBefore text spans region.start := by
      have parts : text.take start =
          text.take region.start ++ Text.slice text region.start region.stop := by
        rw [← stop, Text.slice, ← List.take_add, Nat.add_sub_cancel' ordered]
      have gone : Text.keepWhere (fun place => !Span.anyCovers (regions text spans) place)
          (0 + (text.take region.start).length) (Text.slice text region.start region.stop) = [] := by
        apply Text.keepWhere_held member
        intro place low high
        simp only [Text.slice, List.length_take, List.length_drop] at low high
        exact Span.covers_iff.mpr (by omega)
      rw [leftBefore, parts, Text.keepWhere_append, gone, List.append_nil, leftBefore]
    rw [back]
    simp only [beginsLine, Bool.or_eq_true, beq_iff_eq, Option.any_eq_true] at begins
    rcases begins with origin | ⟨d, found', breaks'⟩
    · left
      rw [origin]
      rfl
    · by_cases origin : region.start = 0
      · left
        rw [origin]
        rfl
      · exact .inr ⟨d, getLast?_leftBefore origin found' (free_before_region member origin), breaks'⟩

/-- A cut that comes to an untouched line leaves all of it. -/
theorem Untouched.keepWhere_line (untouched : Untouched text spans start line)
    (inked : ∀ span ∈ spans, span.Inked text) :
    Text.keepWhere (fun place => !Span.anyCovers (regions text spans) place) (0 + start) line =
      line := by
  apply Text.keepWhere_eq_self
  intro place low high
  rw [untouched.kept inked (by omega) (by omega)]
  rfl

/-- A cut leaves an untouched line between what it leaves in front of the line and behind it. -/
theorem Untouched.survives (untouched : Untouched text spans start line)
    (inked : ∀ span ∈ spans, span.Inked text) :
    ∃ after body mark, text.outside (regions text spans) =
        leftBefore text spans start ++ (line ++ after) ∧
      line = body ++ mark ∧ Text.Plain body ∧ body ≠ [] ∧
      ((∃ old, Text.BreakBefore mark old) ∨ mark = [] ∧ after = []) := by
  obtain ⟨front, behind, body, mark, whole, width, -, shape, plain, some_char, ends⟩ :=
    untouched.parts
  refine ⟨Text.keepWhere (fun place => !Span.anyCovers (regions text spans) place)
    (0 + start + line.length) behind, body, mark, ?_, shape, plain, some_char, ?_⟩
  · have taken : text.take start = front := by rw [whole, ← width, List.take_left]
    have parted : text.outside (regions text spans) =
        Text.keepWhere (fun place => !Span.anyCovers (regions text spans) place) 0
          (front ++ (line ++ behind)) := by rw [← whole]; rfl
    rw [parted, Text.keepWhere_append, Text.keepWhere_append, width, untouched.keepWhere_line inked,
      leftBefore, taken]
  · rcases ends with isBreak | ⟨empty, none_behind⟩
    · exact .inl ⟨behind, isBreak⟩
    · exact .inr ⟨empty, by rw [none_behind]; rfl⟩

/-- What a cut leaves grows from one untouched line to the next by the line at least. -/
theorem Untouched.leftBefore_le (untouched : Untouched text spans start line)
    (inked : ∀ span ∈ spans, span.Inked text) {next : Nat} (beyond : start + line.length ≤ next) :
    (leftBefore text spans start).length + line.length ≤ (leftBefore text spans next).length := by
  obtain ⟨front, behind, -, -, whole, width, -⟩ := untouched.parts
  have first : text.take start = front := by rw [whole, ← width, List.take_left]
  have later : text.take next = front ++ (line ++ behind.take (next - start - line.length)) := by
    rw [whole, List.take_append, List.take_append, List.take_of_length_le (by omega),
      List.take_of_length_le (by omega), width]
  rw [leftBefore, leftBefore, first, later, Text.keepWhere_append, Text.keepWhere_append, width,
    untouched.keepWhere_line inked]
  simp only [List.length_append]
  omega

end Untouched

/-- Lines that no span touches come through a cut. Where all spans begin and end with ink, every line
with ink on it that none of them touches occurs in what is left, with its line break and from the
first position of a line on, and these lines keep their order. A line that ends with a carriage return
may find a line feed behind it, which then belongs to its line break. -/
theorem remove_keeps_lines (draft : Draft) (spans : List Span)
    (inked : ∀ span ∈ spans, span.Inked draft.text) :
    ∃ (rest : Draft) (landing : Nat → Nat), draft.remove spans = .ok rest ∧
      (∀ start line, Untouched draft.text spans start line →
        Text.slice rest.text (landing start) (landing start + line.length) = line ∧
        ∃ whole, rest.text.LineAt (landing start) whole ∧
          (whole = line ∨ line.getLast? = some '\r' ∧ whole = line ++ ['\n'])) ∧
      ∀ start line next other, Untouched draft.text spans start line →
        Untouched draft.text spans next other → start < next →
        landing start + line.length ≤ landing next := by
  obtain ⟨rest, done, outside⟩ :=
    remove_eq_outside fun span member => (inked span member).stop_le
  refine ⟨rest, fun start => (leftBefore draft.text spans start).length, done, ?_, ?_⟩
  · intro start line untouched
    obtain ⟨after, body, mark, split, shape, plain, some_char, ends⟩ := untouched.survives inked
    rw [outside, split]
    refine ⟨by simp [Text.slice], ?_⟩
    obtain ⟨whole, more, first, same⟩ := Text.lines_regrown after plain some_char ends
    rw [← shape] at first same
    refine ⟨whole, ⟨(leftBefore draft.text spans start).lines, more, ?_, by simp⟩, same⟩
    -- The line begins a line in what is left, so the lines in front of it stay as they are.
    have begins : Text.LineStart (leftBefore draft.text spans start) (line ++ after) := by
      obtain ⟨c, -, head, plain⟩ := untouched.head
      rcases untouched.leftBefore_ends inked with empty | ⟨d, final, breaks⟩
      · exact .inl empty
      · refine .inr ⟨d, final, breaks, fun _ feed => ?_⟩
        rw [List.head?_append, head, Option.some_or, Option.some_inj] at feed
        rw [feed] at plain
        contradiction
    rw [Text.lines_append begins, first]
  · intro start line next other untouched untouched' earlier
    exact untouched.leftBefore_le inked (untouched.isLine.before untouched'.isLine earlier)

/-- A statement goes with its own line break, and the empty line behind it becomes part of the line
break in front. -/
theorem remove_keeps_lines_regrown :
    Untouched ['a', '\r', 'x', '\n', '\n', 'b'] [⟨2, 3, by decide⟩] 0 ['a', '\r'] ∧
    Untouched ['a', '\r', 'x', '\n', '\n', 'b'] [⟨2, 3, by decide⟩] 5 ['b'] ∧
    ∃ (rest : Draft) (first second : Nat),
      remove ⟨['a', '\r', 'x', '\n', '\n', 'b'], false⟩ [⟨2, 3, by decide⟩] = .ok rest ∧
      Text.slice rest.text first (first + 2) = ['a', '\r'] ∧
      (∃ whole, rest.text.LineAt first whole ∧
        (whole = ['a', '\r'] ∨ whole = ['a', '\r', '\n'])) ∧
      rest.text.LineAt second ['b'] ∧ first + 2 ≤ second := by
  have inked : ∀ span ∈ [(⟨2, 3, by decide⟩ : Span)],
      span.Inked ['a', '\r', 'x', '\n', '\n', 'b'] := by
    intro span member
    obtain rfl := List.mem_singleton.mp member
    exact ⟨by decide, by decide, by decide⟩
  have above : Untouched ['a', '\r', 'x', '\n', '\n', 'b'] [⟨2, 3, by decide⟩] 0 ['a', '\r'] :=
    ⟨⟨[], [['x', '\n'], ['\n'], ['b']], by decide, rfl⟩, by decide, by decide⟩
  have below : Untouched ['a', '\r', 'x', '\n', '\n', 'b'] [⟨2, 3, by decide⟩] 5 ['b'] :=
    ⟨⟨[['a', '\r'], ['x', '\n'], ['\n']], [], by decide, rfl⟩, by decide, by decide⟩
  obtain ⟨rest, landing, done, survives, ordered⟩ :=
    remove_keeps_lines ⟨['a', '\r', 'x', '\n', '\n', 'b'], false⟩ _ inked
  obtain ⟨occurs, whole, isLine, same⟩ := survives 0 _ above
  obtain ⟨-, whole', isLine', same'⟩ := survives 5 _ below
  -- The second line has no line break of its own that could grow.
  obtain rfl : whole' = ['b'] := same'.resolve_right (by simp)
  exact ⟨above, below, rest, landing 0, landing 5, done, occurs,
    ⟨whole, isLine, same.imp_right fun grown => grown.2⟩, isLine',
    ordered 0 _ 5 _ above below (by decide)⟩

end Draft

end ImportOrder
