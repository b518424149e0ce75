import ImportOrder.Proofs.Draft.Deletion

/-! A text read as lines: what its lines are, where they begin, and how the lines of two texts join. -/

namespace ImportOrder

namespace Text

/-- Put a text in front of the first of some lines. -/
def hang (lead : Text) : List Text → List Text
  | [] => [lead]
  | line :: more => (lead ++ line) :: more

/-- The lines of a text, each with the line break that ends it. What follows the last line break, if
anything does, is a line without one. -/
def lines : Text → List Text
  | [] => []
  | '\r' :: '\n' :: rest => ['\r', '\n'] :: lines rest
  -- A carriage return that is alone comes here, and is a line break as the line feed is.
  | c :: rest => if isBreakChar c then [c] :: lines rest else hang [c] (lines rest)

/-- A text that stays on one line. -/
def Plain (text : Text) : Prop := ∀ c ∈ text, isBreakChar c = false

/-- The place between two texts is the first position of a line: nothing comes in front of it, or a
line break that does not go on behind it. -/
def LineStart (front behind : Text) : Prop :=
  -- A carriage return in front of a line feed is not the end of a line break.
  front = [] ∨ ∃ c, front.getLast? = some c ∧ isBreakChar c = true ∧
    (c = '\r' → behind.head? ≠ some '\n')

/-- A line of a text with the offset at which it begins. -/
def LineAt (text : Text) (start : Nat) (line : Text) : Prop :=
  ∃ above below, text.lines = above ++ line :: below ∧ above.flatten.length = start

/-- Ink breaks no line. -/
theorem not_isBreakChar_of_not_isBlank {c : Char} (inked : isBlank c = false) :
    isBreakChar c = false := by
  rw [Bool.eq_false_iff]
  intro breaks
  -- Both characters that break lines are blank.
  simp only [isBreakChar, Bool.or_eq_true, beq_iff_eq] at breaks
  rcases breaks with rfl | rfl <;> contradiction

/-- A line break starts with a character that breaks lines and ends with one. -/
theorem BreakBefore.ends {mark behind : Text} (isBreak : BreakBefore mark behind) :
    ∃ c d, mark.head? = some c ∧ mark.getLast? = some d ∧ isBreakChar c = true ∧
      isBreakChar d = true ∧ (d = '\r' → behind.head? ≠ some '\n') := by
  rcases isBreak with rfl | rfl | ⟨rfl, alone⟩
  · exact ⟨'\r', '\n', rfl, rfl, rfl, rfl, by simp⟩
  · exact ⟨'\n', '\n', rfl, rfl, rfl, rfl, by simp⟩
  · exact ⟨'\r', '\r', rfl, rfl, rfl, rfl, fun _ => alone⟩

theorem BreakBefore.ne_nil {mark behind : Text} (isBreak : BreakBefore mark behind) : mark ≠ [] := by
  obtain ⟨c, -, first, -⟩ := isBreak.ends
  rintro rfl
  contradiction

/-- What follows a line break matters to it by its first character only. -/
theorem BreakBefore.congr {mark behind other : Text} (isBreak : BreakBefore mark behind)
    (same : behind.head? = other.head?) : BreakBefore mark other := by
  rcases isBreak with rfl | rfl | ⟨rfl, alone⟩
  · exact .inl rfl
  · exact .inr (.inl rfl)
  · exact .inr (.inr ⟨rfl, same ▸ alone⟩)

/-- Every text is empty, or one line without a line break, or a line with one and what follows it. -/
@[elab_as_elim]
theorem lineInduction {motive : Text → Prop} (nil : motive [])
    (last : ∀ body, Plain body → body ≠ [] → motive body)
    (line : ∀ body mark behind, Plain body → BreakBefore mark behind → motive behind →
      motive (body ++ (mark ++ behind))) (text : Text) : motive text := by
  -- The line break makes what follows it shorter than the whole.
  induction size : text.length using Nat.strongRecOn generalizing text with
  | _ size ih =>
    have split := List.takeWhile_append_dropWhile (p := fun c => !isBreakChar c) (l := text)
    have plain : Plain (text.takeWhile fun c => !isBreakChar c) := by
      intro c member
      simpa using List.all_eq_true.mp List.all_takeWhile c member
    generalize text.takeWhile (fun c => !isBreakChar c) = body at split plain
    cases rest : text.dropWhile fun c => !isBreakChar c with
    | nil =>
      rw [rest, List.append_nil] at split
      by_cases empty : body = []
      · rw [← split, empty]
        exact nil
      · rw [← split]
        exact last body plain empty
    | cons c more =>
      -- The first character that is not plain starts a line break.
      have breaks : isBreakChar c = true := by
        have stops := List.head?_dropWhile_not (fun c => !isBreakChar c) text
        rw [rest] at stops
        simpa using stops
      have found : ∃ width, leadingBreak? (c :: more) = some width := by
        simp only [isBreakChar, Bool.or_eq_true, beq_iff_eq] at breaks
        rcases breaks with rfl | rfl
        · exact ⟨1, rfl⟩
        · cases more with
          | nil => exact ⟨1, rfl⟩
          | cons d more =>
            by_cases feed : d = '\n'
            · exact ⟨2, by rw [feed]; rfl⟩
            · exact ⟨1, by simp [leadingBreak?, feed]⟩
      obtain ⟨width, found⟩ := found
      obtain ⟨mark, behind, isBreak, shape, -⟩ := leadingBreak?_eq_some_iff.mp found
      rw [rest, shape] at split
      rw [← split]
      refine line body mark behind plain isBreak (ih _ ?_ behind rfl)
      have wide := List.length_pos_of_ne_nil isBreak.ne_nil
      rw [← size, ← split, List.length_append, List.length_append]
      omega

@[simp] theorem lines_nil : lines [] = [] := by
  simp [lines]

/-- A line break that nothing comes in front of is a line. -/
theorem lines_break {mark behind : Text} (isBreak : BreakBefore mark behind) :
    lines (mark ++ behind) = mark :: lines behind := by
  rcases isBreak with rfl | rfl | ⟨rfl, alone⟩
  · simp [lines]
  · simp [lines, isBreakChar]
  · -- The line feed that would belong to the carriage return is not there.
    cases behind with
    | nil => simp [lines, isBreakChar]
    | cons c more =>
      have other : c ≠ '\n' := by simpa using alone
      simp [lines, isBreakChar, other]

/-- A character that breaks no line goes to the first line of what follows it. -/
theorem lines_cons {c : Char} (plain : isBreakChar c = false) (rest : Text) :
    lines (c :: rest) = hang [c] (lines rest) := by
  -- The first two cases of the definition need a carriage return in front.
  have other : c ≠ '\r' := by
    rintro rfl
    contradiction
  rw [lines]
  · simp [plain]
  · intro _ same
    exact absurd same other

theorem hang_hang (first second : Text) (rows : List Text) :
    hang first (hang second rows) = hang (first ++ second) rows := by
  cases rows <;> simp [hang]

theorem hang_append {lead : Text} {rows : List Text} (some_row : rows ≠ []) (more : List Text) :
    hang lead (rows ++ more) = hang lead rows ++ more := by
  cases rows with
  | nil => contradiction
  | cons row rest => simp [hang]

theorem hang_ne_nil (lead : Text) (rows : List Text) : hang lead rows ≠ [] := by
  cases rows <;> simp [hang]

/-- A text with a character in it has a line. -/
theorem lines_ne_nil {text : Text} (some_char : text ≠ []) : lines text ≠ [] := by
  -- Each case but that of the empty text gives a line.
  fun_cases lines text with
  | case1 => contradiction
  | case2 rest => simp
  | case3 c rest => simp
  | case4 c rest => exact hang_ne_nil _ _

/-- A text on one line goes to the first line of what follows it. -/
theorem lines_hang {lead : Text} (plain : Plain lead) (rest : Text) (some_char : lead ++ rest ≠ []) :
    lines (lead ++ rest) = hang lead (lines rest) := by
  induction lead with
  | nil =>
    -- What follows is not empty, so it has a first line.
    cases first : lines rest with
    | nil => exact absurd first (lines_ne_nil some_char)
    | cons line more => simp [hang, first]
  | cons c lead ih =>
    rw [List.cons_append, lines_cons (plain c (by simp))]
    -- The last character of the whole text makes a line of its own; any other one joins a line that
    -- is there.
    by_cases empty : lead ++ rest = []
    · obtain ⟨rfl, rfl⟩ := List.append_eq_nil_iff.mp empty
      rfl
    · rw [ih (fun d member => plain d (by simp [member])) empty, hang_hang]
      rfl

/-- A text on one line is that line. -/
theorem lines_plain {body : Text} (plain : Plain body) (some_char : body ≠ []) :
    lines body = [body] := by
  have whole := lines_hang plain [] (by simpa using some_char)
  simpa [hang] using whole

/-- A line and its line break come in front of the lines of what follows. -/
theorem lines_line {body mark behind : Text} (plain : Plain body)
    (isBreak : BreakBefore mark behind) :
    lines (body ++ (mark ++ behind)) = (body ++ mark) :: lines behind := by
  rw [lines_hang plain _ (by simp [isBreak.ne_nil]), lines_break isBreak]
  rfl

/-- The lines of a text are the whole text. -/
@[simp] theorem flatten_lines (text : Text) : (lines text).flatten = text := by
  -- The induction is on the lines, so each case is one of the rules above.
  induction text using lineInduction with
  | nil => simp
  | last body plain some_char => simp [lines_plain plain some_char]
  | line body mark behind plain isBreak ih => simp [lines_line plain isBreak, ih]

/-- Where a line begins, the lines in front and those behind stay as they are. -/
theorem lines_append {front behind : Text} (start : LineStart front behind) :
    lines (front ++ behind) = lines front ++ lines behind := by
  -- The induction is on the lines in front. Only the last line break of them meets what follows.
  induction front using lineInduction with
  | nil => simp
  | last body plain some_char =>
    -- The last character of such a text breaks no line, so no line begins behind it.
    obtain rfl | ⟨c, final, breaks, -⟩ := start
    · contradiction
    · rw [plain c (List.mem_of_getLast? final)] at breaks
      contradiction
  | line body mark more plain isBreak ih =>
    obtain empty | ⟨c, final, breaks, alone⟩ := start
    · simp [isBreak.ne_nil] at empty
    by_cases empty : more = []
    · -- The break is the last thing in front, so what follows decides whether it goes on.
      subst empty
      -- The break stands in front of the same character as before.
      have isBreak' : BreakBefore mark behind := by
        rcases isBreak with rfl | rfl | ⟨rfl, -⟩
        · exact .inl rfl
        · exact .inr (.inl rfl)
        · refine .inr (.inr ⟨rfl, alone ?_⟩)
          simpa using final.symm
      rw [List.append_nil, List.append_assoc, lines_line plain isBreak']
      have own := lines_line plain isBreak
      rw [List.append_nil] at own
      simp [own]
    · have isBreak' : BreakBefore mark (more ++ behind) :=
        isBreak.congr (by rw [List.head?_append_of_ne_nil _ empty])
      have start' : LineStart more behind := by
        refine .inr ⟨c, ?_, breaks, alone⟩
        rwa [List.getLast?_append_of_ne_nil _ (by simp [empty]),
          List.getLast?_append_of_ne_nil _ empty] at final
      rw [List.append_assoc, List.append_assoc, lines_line plain isBreak', lines_line plain isBreak,
        ih start', List.cons_append]

/-- Every line begins where a line begins. -/
theorem lineStart_of_lines {text line : Text} {above below : List Text}
    (split : text.lines = above ++ line :: below) :
    LineStart above.flatten (line ++ below.flatten) := by
  induction text using lineInduction generalizing above with
  | nil => simp at split
  | last body plain some_char =>
    -- There is one line, and nothing above it.
    rw [lines_plain plain some_char] at split
    obtain ⟨rfl, -⟩ := List.singleton_eq_append_iff.mp split |>.resolve_right (by simp)
    exact .inl rfl
  | line body mark behind plain isBreak ih =>
    rw [lines_line plain isBreak] at split
    -- A line with nothing above it begins the text.
    cases above with
    | nil => exact .inl rfl
    | cons first above =>
      obtain ⟨rfl, later⟩ := List.cons.inj split
      have whole := congrArg List.flatten (show behind.lines = above ++ line :: below from later)
      rw [flatten_lines, List.flatten_append, List.flatten_cons] at whole
      obtain ⟨c, d, -, final, -, breaks, alone⟩ := isBreak.ends
      right
      rw [List.flatten_cons]
      rcases ih later with empty | ⟨e, final', breaks', alone'⟩
      · -- The line break in front of the line is the one of the first line.
        rw [empty, List.nil_append] at whole
        refine ⟨d, ?_, breaks, by rw [← whole]; exact alone⟩
        rw [empty, List.append_nil, List.getLast?_append_of_ne_nil _ isBreak.ne_nil, final]
      · refine ⟨e, ?_, breaks', alone'⟩
        rw [List.getLast?_append_of_ne_nil, final']
        rintro empty
        rw [empty] at final'
        contradiction

/-- A line is a text without a line break and its line break, unless it ends the text. -/
theorem shape_of_lines {text line : Text} {above below : List Text}
    (split : text.lines = above ++ line :: below) :
    ∃ body mark, line = body ++ mark ∧ Plain body ∧
      (BreakBefore mark below.flatten ∨ mark = [] ∧ below = []) := by
  -- A line with no line break can only be the last one.
  induction text using lineInduction generalizing above with
  | nil => simp at split
  | last body plain some_char =>
    rw [lines_plain plain some_char] at split
    obtain ⟨-, same⟩ := List.singleton_eq_append_iff.mp split |>.resolve_right (by simp)
    obtain ⟨rfl, rfl⟩ := List.cons.inj same
    exact ⟨line, [], by simp, plain, .inr ⟨rfl, rfl⟩⟩
  | line body mark behind plain isBreak ih =>
    rw [lines_line plain isBreak] at split
    cases above with
    | nil =>
      obtain ⟨rfl, rfl⟩ := List.cons.inj split
      exact ⟨body, mark, rfl, plain, .inl (by simpa using isBreak)⟩
    | cons first above => exact ih (List.cons.inj split).2

/-- A line stands in its text between what is above it and what is below, and begins a line there. -/
theorem LineAt.parts {text line : Text} {start : Nat} (isLine : text.LineAt start line) :
    ∃ front behind body mark, text = front ++ (line ++ behind) ∧ front.length = start ∧
      LineStart front (line ++ behind) ∧ line = body ++ mark ∧ Plain body ∧
      (BreakBefore mark behind ∨ mark = [] ∧ behind = []) := by
  obtain ⟨above, below, split, width⟩ := isLine
  obtain ⟨body, mark, shape, plain, ends⟩ := shape_of_lines split
  -- Put together again, the lines around it are the text in front and the text behind.
  have whole := congrArg List.flatten split
  rw [flatten_lines, List.flatten_append, List.flatten_cons] at whole
  refine ⟨above.flatten, below.flatten, body, mark, whole, width, lineStart_of_lines split, shape,
    plain, ?_⟩
  rcases ends with isBreak | ⟨empty, none_below⟩
  · exact .inl isBreak
  · exact .inr ⟨empty, by simp [none_below]⟩

/-- Of two lines of a text the one that begins first ends in front of the other. -/
theorem LineAt.before {text line other : Text} {start next : Nat} (isLine : text.LineAt start line)
    (isLine' : text.LineAt next other) (earlier : start < next) : start + line.length ≤ next := by
  obtain ⟨above, below, split, rfl⟩ := isLine
  obtain ⟨above', below', split', rfl⟩ := isLine'
  -- The same lines are cut twice, and one of the cuts lies further on.
  rw [split] at split'
  rcases List.append_eq_append_iff.mp split' with ⟨between, rfl, rest⟩ | ⟨between, rfl, rest⟩
  · cases between with
    | nil => simp at earlier
    | cons first more =>
      -- The first of the lines between the two is the earlier line itself.
      obtain ⟨rfl, -⟩ := List.cons.inj rest
      simp only [List.flatten_append, List.flatten_cons, List.length_append]
      omega
  · simp only [List.flatten_append, List.length_append] at earlier
    omega

/-- A line that some text is put behind keeps its characters. If it ends with a carriage return, a line
feed that comes next belongs to its line break. -/
theorem lines_regrown {body mark : Text} (behind : Text) (plain : Plain body) (some_char : body ≠ [])
    (ends : (∃ old, BreakBefore mark old) ∨ mark = [] ∧ behind = []) :
    ∃ whole more, lines (body ++ mark ++ behind) = whole :: more ∧
      (whole = body ++ mark ∨ (body ++ mark).getLast? = some '\r' ∧ whole = body ++ mark ++ ['\n']) := by
  rw [List.append_assoc]
  rcases ends with ⟨old, rfl | rfl | ⟨rfl, -⟩⟩ | ⟨rfl, rfl⟩
  · exact ⟨_, _, lines_line plain (.inl rfl), .inl rfl⟩
  · exact ⟨_, _, lines_line plain (.inr (.inl rfl)), .inl rfl⟩
  · by_cases feed : behind.head? = some '\n'
    · -- The two characters are one line break now.
      obtain ⟨more, rfl⟩ := List.head?_eq_some_iff.mp feed
      refine ⟨body ++ ['\r', '\n'], lines more, ?_, .inr ⟨by simp, by simp⟩⟩
      exact lines_line plain (.inl rfl)
    · exact ⟨_, _, lines_line plain (.inr (.inr ⟨rfl, feed⟩)), .inl rfl⟩
  · rw [List.append_nil, List.append_nil, lines_plain plain some_char]
    exact ⟨body, [], rfl, .inl rfl⟩

end Text

end ImportOrder
