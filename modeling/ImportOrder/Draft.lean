import ImportOrder.Text.Basic
import ImportOrder.Text.Lines
import ImportOrder.Span

/-! A working text from which spans are cut and into which texts are put. -/

namespace ImportOrder

/-- A working text; `finalBreakTaken` says that the last cut took the line break that ended it. -/
structure Draft where
  text : Text
  finalBreakTaken : Bool := false
deriving DecidableEq, Repr

namespace Draft

/-- Why an operation on a draft is refused. -/
inductive Refusal
  | spanOutside (span : Span) (length : Nat)
  | offsetOutside (offset : Int) (length : Nat)
deriving DecidableEq, Repr

/-- The wording of a refusal. -/
def Refusal.message : Refusal → String
  | .spanOutside span length =>
    s!"Span {span.start}..{span.stop} outside buffer of length {length}"
  | .offsetOutside offset length => s!"Insert offset {offset} outside buffer of length {length}"

/-- The number of characters of a draft. -/
def length (draft : Draft) : Nat := draft.text.length

/-- The offset that a whole number stands for: a negative one counts from the end. -/
def place (draft : Draft) (offset : Int) : Int :=
  if offset < 0 then offset + draft.length else offset

/-- Whether the character in front of an offset, or the start of the text, lets a line begin there.
-/
def beginsLine (text : Text) (offset : Nat) : Bool :=
  offset == 0 || text[offset - 1]?.any isBreakChar

/-- Whether an offset is the first of a line; none if no character stands in front of it. -/
def atLineStart? (draft : Draft) (offset : Int) : Option Bool :=
  if offset == 0 then some true
  else
    let before := draft.place (offset - 1)
    if before < 0 then none else draft.text[before.toNat]?.map isBreakChar

/-- Whether a line break starts at an offset. -/
def breakAt (draft : Draft) (offset : Int) : Bool :=
  Text.startsWithBreak (draft.text.drop (draft.place offset).toNat)

/-- Whether an offset is the end of a draft that lost its final line break to the last cut. -/
def atLostBreak (draft : Draft) (offset : Int) : Bool :=
  offset == draft.length && draft.finalBreakTaken

/-- Grow the region `current` over the spans that blanks alone keep from it; a further span starts a
region of its own. The spans come in order of their starts. -/
def mergeFrom (text : Text) (current : Span) : List Span → List Span
  | [] => [current]
  | span :: rest =>
    -- A span that starts inside the region has nothing in front of it, and nothing is blank.
    if Text.allBlank (Text.slice text current.stop span.start) then
      have := current.ordered
      mergeFrom text ⟨current.start, max current.stop span.stop, by omega⟩ rest
    else current :: mergeFrom text span rest

/-- The regions that sorted spans merge into. -/
def merge (text : Text) : List Span → List Span
  | [] => []
  | span :: rest => mergeFrom text span rest

/-- Where a region that starts a line ends: behind the blanks and the line break that follow it, if
nothing else follows on its line. -/
def lineEnd (text : Text) (stop : Nat) : Nat :=
  let after := text.drop stop
  let blanks := (after.takeWhile isInlineBlank).length
  match after.drop blanks with
  -- At the end of the text the blanks go as well.
  | [] => max stop text.length
  | rest =>
    match Text.leadingBreak? rest with
    | some width => stop + blanks + width
    | none => stop

/-- The end of a line is not in front of the region. -/
theorem le_lineEnd (text : Text) (stop : Nat) : stop ≤ lineEnd text stop := by
  -- Each branch adds to the stop or keeps it.
  simp only [lineEnd]
  split
  · omega
  · split <;> omega

/-- A region with the rest of its line, if it starts the line and blanks alone follow. -/
def extend (text : Text) (region : Span) : Span :=
  if beginsLine text region.start then
    ⟨region.start, lineEnd text region.stop, Nat.le_trans region.ordered (le_lineEnd ..)⟩
  else region

/-- The regions that cutting spans takes out, in ascending order. -/
def regions (text : Text) (spans : List Span) : List Span :=
  (merge text (spans.mergeSort Span.precedes)).map (extend text)

/-- The text outside ascending regions, where `offset` is the place of the first character given. -/
def keepFrom (offset : Nat) (text : Text) : List Span → Text
  | [] => text
  | region :: rest =>
    text.take (region.start - offset) ++
      keepFrom region.stop (text.drop (region.stop - offset)) rest

/-- Whether ascending regions take the line break that ends a text. -/
def takesFinalBreak (text : Text) (regions : List Span) : Bool :=
  match regions.getLast? with
  | none => false
  | some last => last.start < last.stop && last.stop == text.length && Text.endsWithBreak text

/-- Work on a draft in place, which keeps what was done before a refusal. -/
abbrev Edit := ExceptT Refusal (StateM Draft)

/-- Cut spans out of the draft in place, in whatever order they come, and tell its new length. Every
span is looked at before the draft is touched. -/
def cutOut (spans : List Span) : Edit Nat := do
  let draft ← get
  match (spans.mergeSort Span.precedes).find? fun span => draft.length < span.stop with
  | some span => throw (.spanOutside span draft.length)
  | none =>
    let found := regions draft.text spans
    -- An empty list of spans leaves the mark of a lost break as it was.
    if found.isEmpty then return draft.length
    modify fun draft => { draft with finalBreakTaken := takesFinalBreak draft.text found }
    modify fun draft => { draft with text := keepFrom 0 draft.text found }
    return (← get).length

/-- The draft that a cut in place leaves. -/
def remove (draft : Draft) (spans : List Span) : Except Refusal Draft :=
  match (cutOut spans).run draft with
  | (.ok _, rest) => .ok rest
  | (.error refusal, _) => .error refusal

/-- Put a text into a draft at an offset. -/
def insertAt (draft : Draft) (offset : Int) (text : Text) : Except Refusal Draft :=
  if 0 ≤ offset ∧ offset ≤ draft.length then
    .ok { draft with text := draft.text.take offset.toNat ++ text ++ draft.text.drop offset.toNat }
  else .error (.offsetOutside offset draft.length)

end Draft

end ImportOrder
