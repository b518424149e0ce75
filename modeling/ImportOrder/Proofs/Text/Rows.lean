import ImportOrder.Proofs.Text.Lines
import Mathlib.Data.List.DropRight

/-! The lines of a text without their line breaks, and how they come together when texts are put one
behind the other. -/

namespace ImportOrder

namespace Text

/-- A line without its line break. -/
def bare (line : Text) : Text := line.takeWhile fun c => !isBreakChar c

/-- The lines of a text without their line breaks. -/
def rows (text : Text) : List Text := text.lines.map bare

/-- What a text holds up to its last line break. -/
def finished (text : Text) : Text := text.rdropWhile fun c => !isBreakChar c

/-- What a text holds behind its last line break. -/
def unfinished (text : Text) : Text := text.rtakeWhile fun c => !isBreakChar c

/-- A text that begins and ends with ink. -/
structure InkEnded (text : Text) : Prop where
  first : ∃ c, text.head? = some c ∧ isBlank c = false
  last : ∃ c, text.getLast? = some c ∧ isBlank c = false

/-- Rows of which neither the first nor the last is empty. -/
structure Solid (rows : List Text) : Prop where
  first : ∃ row, rows.head? = some row ∧ row ≠ []
  last : ∃ row, rows.getLast? = some row ∧ row ≠ []

/-- The first character of a text that begins with ink breaks no line. -/
theorem InkEnded.opens {text : Text} (inkEnded : InkEnded text) :
    ∃ c more, text = c :: more ∧ isBreakChar c = false := by
  obtain ⟨c, head, inked⟩ := inkEnded.first
  obtain ⟨more, shape⟩ := List.head?_eq_some_iff.mp head
  exact ⟨c, more, shape, not_isBreakChar_of_not_isBlank inked⟩

/-- The last character of a text that ends with ink breaks no line. -/
theorem InkEnded.closes {text : Text} (inkEnded : InkEnded text) :
    ∃ c, text.getLast? = some c ∧ isBreakChar c = false := by
  obtain ⟨c, final, inked⟩ := inkEnded.last
  exact ⟨c, final, not_isBreakChar_of_not_isBlank inked⟩

theorem Solid.ne_nil {rows : List Text} (solid : Solid rows) : rows ≠ [] := by
  obtain ⟨row, head, -⟩ := solid.first
  rintro rfl
  contradiction

/-- Rows that are put one behind the other keep the outer ends. -/
theorem Solid.append {above below : List Text} (solid : Solid above) (solid' : Solid below) :
    Solid (above ++ below) := by
  -- Neither list is empty, so each gives one of the ends.
  constructor
  · rw [List.head?_append_of_ne_nil _ solid.ne_nil]
    exact solid.first
  · rw [List.getLast?_append_of_ne_nil _ solid'.ne_nil]
    exact solid'.last

theorem bare_append {lead : Text} (plain : Plain lead) (line : Text) :
    bare (lead ++ line) = lead ++ bare line := by
  apply List.takeWhile_append_of_pos
  intro c member
  simp [plain c member]

/-- A line break alone is an empty row. -/
theorem BreakBefore.bare_eq_nil {mark behind : Text} (isBreak : BreakBefore mark behind) :
    bare mark = [] := by
  rcases isBreak with rfl | rfl | ⟨rfl, -⟩ <;> rfl

@[simp] theorem rows_nil : rows [] = [] := by
  simp [rows]

/-- A line and its line break are one row in front of those that follow. -/
theorem rows_line {body mark behind : Text} (plain : Plain body) (isBreak : BreakBefore mark behind) :
    rows (body ++ (mark ++ behind)) = body :: rows behind := by
  rw [rows, lines_line plain isBreak, List.map_cons, bare_append plain, isBreak.bare_eq_nil,
    List.append_nil, rows]

/-- A line break that nothing comes in front of is an empty row. -/
theorem rows_break {mark behind : Text} (isBreak : BreakBefore mark behind) :
    rows (mark ++ behind) = [] :: rows behind :=
  @rows_line [] _ _ (by simp [Plain]) isBreak

theorem rows_plain {body : Text} (plain : Plain body) (some_char : body ≠ []) :
    rows body = [body] := by
  have whole := bare_append plain []
  rw [List.append_nil] at whole
  rw [rows, lines_plain plain some_char, List.map_singleton, whole]
  simp [bare]

/-- A text on one line goes to the first row of what follows it. -/
theorem rows_hang {lead rest : Text} (plain : Plain lead) (some_char : rest ≠ []) :
    rows (lead ++ rest) = hang lead (rows rest) := by
  rw [rows, rows, lines_hang plain rest (by simp [some_char])]
  -- What follows has a first line, which the text goes in front of.
  cases first : lines rest with
  | nil => exact absurd first (lines_ne_nil some_char)
  | cons line more => simp [hang, bare_append plain]

/-- The first row is empty, or there is none, exactly where a text does not begin with a character of
a row. -/
theorem head_rows_iff (text : Text) :
    (rows text = [] ∨ (rows text).head? = some []) ↔
      ∀ c, text.head? = some c → isBreakChar c = true := by
  -- The lines of a text are taken one by one here, since only the first one counts.
  induction text using lineInduction with
  | nil => simp
  | last body plain some_char =>
    obtain ⟨c, more, rfl⟩ := List.exists_cons_of_ne_nil some_char
    simp [rows_plain plain some_char, plain c]
  | line body mark behind plain isBreak =>
    rw [rows_line plain isBreak]
    cases body with
    | nil =>
      -- The row is empty, and the text begins with its line break.
      obtain ⟨c, -, head, -, breaks, -⟩ := isBreak.ends
      rw [List.nil_append, List.head?_append, head]
      simp [breaks]
    | cons c more => simp [plain c]

/-- Where a text ends inside a line, so does what follows its first line break. -/
theorem BreakBefore.getLast_behind {body mark behind : Text} {c : Char}
    (isBreak : BreakBefore mark behind) (final : (body ++ (mark ++ behind)).getLast? = some c)
    (plain : isBreakChar c = false) : behind ≠ [] ∧ behind.getLast? = some c := by
  rw [List.getLast?_append_of_ne_nil _ (by simp [isBreak.ne_nil])] at final
  have some_char : behind ≠ [] := by
    intro empty
    -- The text would end with the line break.
    obtain ⟨-, d, -, last, -, breaks, -⟩ := isBreak.ends
    rw [empty, List.append_nil, last, Option.some_inj] at final
    rw [final, plain] at breaks
    contradiction
  rw [List.getLast?_append_of_ne_nil _ some_char] at final
  exact ⟨some_char, final⟩

/-- Where a text ends inside a line, a line break behind it ends its last row. -/
theorem rows_append_break {text mark behind : Text} {c : Char} (final : text.getLast? = some c)
    (plain : isBreakChar c = false) (isBreak : BreakBefore mark behind) :
    rows (text ++ (mark ++ behind)) = rows text ++ rows behind := by
  -- The induction is on the lines. A line break in front is not the last thing of the text, so what
  -- it joins with does not change.
  induction text using lineInduction with
  | nil => contradiction
  | last body plain some_char =>
    rw [rows_line plain isBreak, rows_plain plain some_char]
    rfl
  | line body own more plainBody isOwn ih =>
    obtain ⟨some_char, final⟩ := isOwn.getLast_behind final plain
    have isOwn' : BreakBefore own (more ++ (mark ++ behind)) :=
      isOwn.congr (by rw [List.head?_append_of_ne_nil _ some_char])
    rw [List.append_assoc, List.append_assoc, rows_line plainBody isOwn', rows_line plainBody isOwn,
      ih final, List.cons_append]

/-- Where a text ends inside a line, its last row is not empty. -/
theorem getLast_rows {text : Text} {c : Char} (final : text.getLast? = some c)
    (plain : isBreakChar c = false) : ∃ row, (rows text).getLast? = some row ∧ row ≠ [] := by
  -- The induction reaches the last line, which has a character and no line break.
  induction text using lineInduction with
  | nil => contradiction
  | last body plain some_char => exact ⟨body, by rw [rows_plain plain some_char]; rfl, some_char⟩
  | line body mark behind plainBody isBreak ih =>
    obtain ⟨row, last, some_char⟩ := ih (isBreak.getLast_behind final plain).2
    refine ⟨row, ?_, some_char⟩
    rw [rows_line plainBody isBreak, List.getLast?_cons, last]
    rfl

/-- A text that begins and ends with ink begins and ends with a row that is not empty. -/
theorem InkEnded.solid {text : Text} (inkEnded : InkEnded text) : Solid (rows text) := by
  -- The two ends are shown apart: the last row holds the last character, and the first one the
  -- first.
  obtain ⟨d, final, plain⟩ := inkEnded.closes
  refine ⟨?_, getLast_rows final plain⟩
  obtain ⟨c, more, rfl, plain'⟩ := inkEnded.opens
  have open_row := (head_rows_iff (c :: more)).not.mpr (by simp [plain'])
  cases first : rows (c :: more) with
  | nil => exact absurd (.inl first) open_row
  | cons row rest => exact ⟨row, rfl, fun empty => open_row (.inr (by rw [first, empty]; rfl))⟩

/-- Behind a text, a text that begins with a character of a row goes on with the unfinished line. -/
theorem rows_resume (front : Text) {c : Char} (plain : isBreakChar c = false) (more : Text) :
    rows (front ++ c :: more) =
      rows front.finished ++ hang front.unfinished (rows (c :: more)) := by
  have plainLead : Plain front.unfinished := by
    intro d member
    simpa using List.mem_rtakeWhile_imp member
  have parts : front = front.finished ++ front.unfinished :=
    (List.rdropWhile_append_rtakeWhile ..).symm
  -- The finished part ends with a line break that the next character cannot take along.
  have begins : LineStart front.finished (front.unfinished ++ c :: more) := by
    by_cases empty : front.finished = []
    · exact .inl empty
    · have stops := List.rdropWhile_last_not (fun c => !isBreakChar c) front empty
      rw [Bool.not_eq_true', Bool.not_eq_false] at stops
      refine .inr ⟨_, List.getLast?_eq_some_getLast empty, stops, ?_⟩
      intro _ feed
      have next : isBreakChar '\n' = false := by
        rw [List.head?_append, Option.or_eq_some_iff] at feed
        rcases feed with head | ⟨-, head⟩
        · exact plainLead _ (List.mem_of_head? head)
        · rw [List.head?_cons, Option.some_inj] at head
          rwa [← head]
      contradiction
  -- The finished lines stay as they are, and the unfinished one goes on.
  conv_lhs => rw [parts, List.append_assoc]
  rw [rows, lines_append begins, List.map_append]
  congr 1
  exact rows_hang plainLead (by simp)

end Text

end ImportOrder
