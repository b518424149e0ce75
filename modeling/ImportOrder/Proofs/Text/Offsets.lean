import ImportOrder.Span
import ImportOrder.Text.Basic
import Mathlib.Data.List.Basic

/-! Parts of a text told by the offsets of their characters. -/

namespace ImportOrder

/-- Whether a span holds an offset. -/
def Span.covers (span : Span) (place : Nat) : Bool :=
  span.start ≤ place && place < span.stop

/-- A span covers the offsets from its start up to its stop. -/
theorem Span.covers_iff {span : Span} {place : Nat} :
    span.covers place = true ↔ span.start ≤ place ∧ place < span.stop := by
  simp [Span.covers]

/-- Two spans that share no offset. -/
def Span.Apart (a b : Span) : Prop :=
  ∀ place, ¬(a.covers place = true ∧ b.covers place = true)

/-- A span that ends where another starts, or in front of it, shares no offset with it. -/
theorem Span.apart_of_le {a b : Span} (before : a.stop ≤ b.start) : a.Apart b := by
  rintro place ⟨first, second⟩
  -- A shared offset would lie in front of the border and behind it.
  have left := Span.covers_iff.mp first
  have right := Span.covers_iff.mp second
  omega

/-- Whether one of several spans holds an offset. -/
def Span.anyCovers (spans : List Span) (place : Nat) : Bool :=
  spans.any fun span => span.covers place

/-- An offset is covered when a member of the list covers it. -/
theorem Span.anyCovers_iff {spans : List Span} {place : Nat} :
    Span.anyCovers spans place = true ↔ ∃ span ∈ spans, span.covers place = true := by
  simp [Span.anyCovers]

namespace Text

/-- The characters at the offsets that a test keeps, where `offset` is the place of the first one. -/
def keepWhere (keep : Nat → Bool) (offset : Nat) (text : Text) : Text :=
  ((text.zipIdx offset).filter fun entry => keep entry.2).map Prod.fst

/-- The characters at the offsets that no span covers. -/
def outside (text : Text) (spans : List Span) : Text :=
  text.keepWhere (fun place => !Span.anyCovers spans place) 0

/-- The characters that are not blank. -/
def ink (text : Text) : Text := text.filter fun c => !isBlank c

@[simp] theorem ink_append (left right : Text) : ink (left ++ right) = ink left ++ ink right := by
  simp [ink]

/-- A blank text holds no ink. -/
theorem ink_eq_nil {text : Text} (blank : allBlank text = true) : ink text = [] := by
  simpa [ink, allBlank] using blank

/-- Offsets run on from the first part of a text to the second. -/
theorem keepWhere_append (keep : Nat → Bool) (offset : Nat) (left right : Text) :
    keepWhere keep offset (left ++ right) =
      keepWhere keep offset left ++ keepWhere keep (offset + left.length) right := by
  simp [keepWhere, List.zipIdx_append]

/-- Two tests that agree at every offset of a text keep the same characters. -/
theorem keepWhere_congr {keep other : Nat → Bool} {offset : Nat} {text : Text}
    (agree : ∀ place, offset ≤ place → place < offset + text.length → keep place = other place) :
    keepWhere keep offset text = keepWhere other offset text := by
  unfold keepWhere
  congr 1
  apply List.filter_congr
  rintro ⟨c, place⟩ member
  -- An entry of the numbered text carries an offset inside it.
  obtain ⟨low, high, -⟩ := List.mem_zipIdx member
  exact agree place low high

/-- A test that holds at every offset of a text keeps the text. -/
theorem keepWhere_eq_self {keep : Nat → Bool} {offset : Nat} {text : Text}
    (kept : ∀ place, offset ≤ place → place < offset + text.length → keep place = true) :
    keepWhere keep offset text = text := by
  -- A test that always holds filters nothing.
  rw [keepWhere_congr kept]
  simp [keepWhere]

/-- A test that fails at every offset of a text keeps nothing. -/
theorem keepWhere_eq_nil {keep : Nat → Bool} {offset : Nat} {text : Text}
    (dropped : ∀ place, offset ≤ place → place < offset + text.length → keep place = false) :
    keepWhere keep offset text = [] := by
  rw [keepWhere_congr dropped]
  simp [keepWhere]

/-- Two tests that agree where the ink stands keep the same ink. -/
theorem ink_keepWhere_congr {keep other : Nat → Bool} {text : Text}
    (agree : ∀ place c, text[place]? = some c → isBlank c = false → keep place = other place) :
    ink (keepWhere keep 0 text) = ink (keepWhere other 0 text) := by
  simp only [ink, keepWhere, List.filter_map, List.filter_filter]
  congr 1
  apply List.filter_congr
  rintro ⟨c, place⟩ member
  have found : text[place]? = some c := List.mem_zipIdx_iff_getElem?.mp member
  cases blank : isBlank c with
  -- Blank characters are thrown away by both sides, whatever the tests say.
  | true => simp [blank]
  | false => simp [blank, agree place c found blank]

/-- A slice holds the characters between its two offsets. -/
theorem getElem?_slice (text : Text) (start stop place : Nat) :
    (slice text start stop)[place]? = if place < stop - start then text[start + place]? else none := by
  simp [slice, List.getElem?_take, List.getElem?_drop]

/-- A text falls into what stands in front of a span, the span, and what stands behind it. -/
theorem take_slice_drop (text : Text) {start stop : Nat} (ordered : start ≤ stop) :
    text.take start ++ slice text start stop ++ text.drop stop = text := by
  -- What stands behind the slice is what is left of the text from its start on.
  have behind : text.drop stop = (text.drop start).drop (stop - start) := by
    rw [List.drop_drop]
    congr 1
    omega
  rw [List.append_assoc, slice, behind, List.take_append_drop, List.take_append_drop]

/-- A slice is the part of the text whose offsets lie between its bounds. -/
theorem keepWhere_covers (text : Text) (span : Span) :
    keepWhere span.covers 0 text = slice text span.start span.stop := by
  have ordered := span.ordered
  nth_rewrite 1 [← take_slice_drop text ordered]
  rw [keepWhere_append, keepWhere_append]
  -- Only the middle part has offsets that the span covers.
  rw [keepWhere_eq_nil, keepWhere_eq_self, keepWhere_eq_nil, List.nil_append, List.append_nil]
  all_goals
    intro place low high
    simp only [slice, List.length_append, List.length_take, List.length_drop] at low high
  -- In front of the span, in it, and behind it.
  · exact Bool.eq_false_iff.mpr fun covered => by have := Span.covers_iff.mp covered; omega
  · exact Span.covers_iff.mpr (by omega)
  · exact Bool.eq_false_iff.mpr fun covered => by have := Span.covers_iff.mp covered; omega

/-- Outside spans that all start behind a text, the text is kept. -/
theorem keepWhere_before {spans : List Span} {offset : Nat} {text : Text}
    (ahead : ∀ span ∈ spans, offset + text.length ≤ span.start) :
    keepWhere (fun place => !Span.anyCovers spans place) offset text = text := by
  apply keepWhere_eq_self
  intro place low high
  rw [Bool.not_eq_true', Bool.eq_false_iff]
  intro covered
  -- A span that covers an offset of the text would have to start in it.
  obtain ⟨span, member, inside⟩ := Span.anyCovers_iff.mp covered
  have bounds := Span.covers_iff.mp inside
  have start := ahead span member
  omega

/-- Outside spans one of which holds a whole text, nothing of the text is kept. -/
theorem keepWhere_held {spans : List Span} {span : Span} (member : span ∈ spans) {offset : Nat}
    {text : Text}
    (held : ∀ place, offset ≤ place → place < offset + text.length → span.covers place = true) :
    keepWhere (fun place => !Span.anyCovers spans place) offset text = [] := by
  apply keepWhere_eq_nil
  intro place low high
  rw [Bool.not_eq_false', Span.anyCovers_iff]
  exact ⟨span, member, held place low high⟩

/-- Behind a span nothing is lost by it, and only the others count. -/
theorem keepWhere_behind {span : Span} (spans : List Span) {offset : Nat} (text : Text)
    (past : span.stop ≤ offset) :
    keepWhere (fun place => !Span.anyCovers (span :: spans) place) offset text =
      keepWhere (fun place => !Span.anyCovers spans place) offset text := by
  apply keepWhere_congr
  intro place low _
  -- The span has ended before the first offset of the text.
  have miss : span.covers place = false := by
    rw [Bool.eq_false_iff]
    intro covered
    have bounds := Span.covers_iff.mp covered
    omega
  simp [Span.anyCovers, miss]

/-- A span apart from the others takes its slice out of what stood outside them. -/
theorem outside_cons_perm (text : Text) {span : Span} {spans : List Span}
    (apart : ∀ other ∈ spans, span.Apart other) :
    (text.outside (span :: spans) ++ slice text span.start span.stop).Perm (text.outside spans) := by
  -- Split what stands outside the others by whether the new span covers it.
  have split := List.filter_append_perm (fun entry : Char × Nat => span.covers entry.2)
    (text.zipIdx.filter fun entry => !Span.anyCovers spans entry.2)
  rw [List.filter_filter, List.filter_filter] at split
  -- What the new span covers none of the others covers.
  have inner : (text.zipIdx.filter fun entry =>
      span.covers entry.2 && !Span.anyCovers spans entry.2) =
      text.zipIdx.filter fun entry => span.covers entry.2 := by
    apply List.filter_congr
    rintro ⟨c, place⟩ -
    cases covered : span.covers place with
    | false => simp
    | true =>
      have free : Span.anyCovers spans place = false := by
        rw [Bool.eq_false_iff]
        intro shared
        obtain ⟨other, member, hit⟩ := Span.anyCovers_iff.mp shared
        exact apart other member place ⟨covered, hit⟩
      simp [free]
  -- Outside all of them is outside the others and not in the new one.
  have outer : (text.zipIdx.filter fun entry =>
      (!span.covers entry.2) && !Span.anyCovers spans entry.2) =
      text.zipIdx.filter fun entry => !Span.anyCovers (span :: spans) entry.2 := by
    simp [Span.anyCovers]
  rw [inner, outer] at split
  have taken : (text.zipIdx.filter fun entry => span.covers entry.2).map Prod.fst =
      slice text span.start span.stop := keepWhere_covers text span
  have moved := split.map Prod.fst
  rw [List.map_append, taken] at moved
  exact List.perm_append_comm.trans moved

/-- The slices of spans that are apart, with what stands outside them, are the whole text. -/
theorem outside_append_slices_perm (text : Text) {spans : List Span}
    (apart : spans.Pairwise Span.Apart) :
    (text.outside spans ++ spans.flatMap fun span => slice text span.start span.stop).Perm text := by
  induction spans with
  | nil =>
    have whole : text.outside [] = text := keepWhere_eq_self fun _ _ _ => by simp [Span.anyCovers]
    simp [whole]
  | cons span rest ih =>
    obtain ⟨first, others⟩ := List.pairwise_cons.mp apart
    rw [List.flatMap_cons, ← List.append_assoc]
    -- The first slice goes back in, and the others by induction.
    exact ((outside_cons_perm text first).append_right _).trans (ih others)

end Text

end ImportOrder
