import ImportOrder.Path

/-! Texts cut at a mark: what a text starts with, its pieces between the marks, and its last piece.
The pieces of a lead are the first pieces of a text exactly if the lead is the whole text or a mark
follows it. -/

namespace ImportOrder

namespace Text

/-- What follows a lead in a text, if the text starts with it, is the text without the lead. -/
theorem after?_eq (lead text : Text) :
    after? lead text = if lead <+: text then some (text.drop lead.length) else none := by
  -- Both are read character by character, so the text stays general.
  induction lead generalizing text with
  | nil => simp [after?]
  | cons c lead ih =>
    cases text with
    | nil => simp [after?]
    | cons d text =>
      rw [after?, ih]
      by_cases same : c = d
      · simp [same]
      · simp [same]

/-- A text starts with a lead exactly if the lead is a first part of it. -/
theorem startsWith_iff {text lead : Text} : startsWith text lead = true ↔ lead <+: text := by
  unfold startsWith
  rw [after?_eq]
  by_cases starts : lead <+: text <;> simp [starts]

/-- A text has at least one piece. -/
theorem splitOn_ne_nil (mark : Char) (text : Text) : splitOn mark text ≠ [] := by
  cases text with
  | nil => simp [splitOn]
  | cons c rest =>
    -- A mark begins a new piece, and any other character joins the first one, which is made if
    -- there is none.
    rw [splitOn]
    split
    · simp
    · split <;> simp

/-- No piece of a split text holds the mark. -/
theorem not_mem_of_mem_splitOn {mark : Char} {text piece : Text}
    (inside : piece ∈ splitOn mark text) : mark ∉ piece := by
  -- The piece is not fixed, because the first one grows as characters come in front.
  induction text generalizing piece with
  | nil =>
    rw [splitOn, List.mem_singleton] at inside
    simp [inside]
  | cons c rest ih =>
    rw [splitOn] at inside
    split at inside
    · rcases List.mem_cons.mp inside with rfl | later
      · exact List.not_mem_nil
      · exact ih later
    · rename_i other
      split at inside
      · rw [List.mem_singleton.mp inside, List.mem_singleton]
        rintro rfl
        simp at other
      · -- Only the first piece grows, by a character that is not the mark.
        rename_i first pieces split_rest
        rcases List.mem_cons.mp inside with rfl | later
        · have clear : mark ∉ first := ih (by simp [split_rest])
          rw [List.mem_cons, not_or]
          refine ⟨?_, clear⟩
          rintro rfl
          simp at other
        · exact ih (by simp [split_rest, later])

/-- A text without the mark is its only piece. -/
theorem splitOn_of_not_mem {mark : Char} {text : Text} (clear : mark ∉ text) :
    splitOn mark text = [text] := by
  induction text with
  | nil => rfl
  | cons c rest ih =>
    rw [List.mem_cons, not_or] at clear
    simp [splitOn, ih clear.2, Ne.symm clear.1]

/-- The pieces around a mark are those in front of it and those behind it. -/
theorem splitOn_append (mark : Char) (front rest : Text) :
    splitOn mark (front ++ mark :: rest) = splitOn mark front ++ splitOn mark rest := by
  induction front with
  | nil => simp [splitOn]
  | cons c front ih =>
    rw [List.cons_append, splitOn, splitOn, ih]
    by_cases same : c = mark
    · simp [same]
    · -- The character joins the first piece, which the front has.
      simp only [beq_eq_false_iff_ne.mpr same, Bool.false_eq_true, if_false]
      cases pieces : splitOn mark front with
      | nil => exact absurd pieces (splitOn_ne_nil mark front)
      | cons first more => rfl

section Last

variable {mark : Char}

/-- A text with a mark has a last one. -/
theorem exists_last_mark {text : Text} (inside : mark ∈ text) :
    ∃ front tail, text = front ++ mark :: tail ∧ mark ∉ tail := by
  -- The last mark is the first one of the text read backwards.
  obtain ⟨tail, front, cut, clear⟩ := List.eq_append_cons_of_mem (List.mem_reverse.mpr inside)
  refine ⟨front.reverse, tail.reverse, ?_, by simpa using clear⟩
  rw [← List.reverse_reverse text, cut]
  simp

/-- What stands behind the last mark of a text, all of it if there is none. -/
def behindLast (mark : Char) (text : Text) : Text := (text.reverse.takeWhile (· != mark)).reverse

/-- Read backwards, a text goes on through a part without marks. -/
theorem takeWhile_unmarked {tail : Text} (clear : mark ∉ tail) (more : Text) :
    (tail.reverse ++ more).takeWhile (· != mark) =
      tail.reverse ++ more.takeWhile (· != mark) := by
  -- No character of the part is the mark, so none stops the run.
  apply List.takeWhile_append_of_pos
  intro c inside
  rw [bne_iff_ne]
  rintro rfl
  exact clear (List.mem_reverse.mp inside)

/-- Without a mark nothing is left out. -/
theorem behindLast_of_not_mem {text : Text} (clear : mark ∉ text) :
    behindLast mark text = text := by
  have whole := takeWhile_unmarked clear []
  rw [List.append_nil, List.takeWhile_nil, List.append_nil] at whole
  rw [behindLast, whole, List.reverse_reverse]

/-- Behind the last mark is what follows it. -/
theorem behindLast_append {front tail : Text} (clear : mark ∉ tail) :
    behindLast mark (front ++ mark :: tail) = tail := by
  rw [behindLast, List.reverse_append, List.reverse_cons, List.append_assoc,
    takeWhile_unmarked clear]
  simp

/-- The last piece of a text is what stands behind its last mark. -/
theorem getLast?_splitOn (mark : Char) (text : Text) :
    (splitOn mark text).getLast? = some (behindLast mark text) := by
  -- Whether there is a mark decides if the last piece is a part or the whole.
  by_cases inside : mark ∈ text
  · -- Behind the last mark there is one piece more, and it is not cut again.
    obtain ⟨front, tail, rfl, clear⟩ := exists_last_mark inside
    rw [splitOn_append, splitOn_of_not_mem clear, List.getLast?_concat, behindLast_append clear]
  · rw [splitOn_of_not_mem inside, behindLast_of_not_mem inside]
    rfl

end Last

end Text

namespace PathText

/-- Segments without slashes that are put together fall into the same segments. -/
theorem splitOn_unite {names : List Text} (some_name : names ≠ [])
    (clear : ∀ name ∈ names, '/' ∉ name) : Text.splitOn '/' (unite names) = names := by
  -- The cases are those of the definition: nothing, a single segment, a segment and a slash in
  -- front of others.
  fun_induction unite names with
  | case1 => contradiction
  | case2 name => exact Text.splitOn_of_not_mem (clear name (by simp))
  | case3 name rest more ih =>
    have rest_eq := ih more fun other member => clear other (List.mem_cons_of_mem _ member)
    rw [Text.splitOn_append, Text.splitOn_of_not_mem (clear name (by simp)), rest_eq]
    rfl

/-- Segments behind others are put together with a slash between the two parts. -/
theorem unite_append {names others : List Text} (some_name : names ≠ []) (more : others ≠ []) :
    unite (names ++ others) = unite names ++ '/' :: unite others := by
  -- The last of the first names is the one that the slash follows.
  induction names with
  | nil => contradiction
  | cons name rest ih =>
    cases rest with
    | nil =>
      cases others with
      | nil => contradiction
      | cons other others => rfl
    | cons next rest =>
      have later := ih (by simp)
      simp only [List.cons_append, unite] at later ⊢
      rw [later]
      simp

/-- Every segment stands whole in what they are put together to. -/
theorem subset_unite {names : List Text} {name : Text} (member : name ∈ names) :
    name ⊆ unite names := by
  fun_induction unite names with
  | case1 => simp at member
  | case2 only => simp [List.mem_singleton.mp member]
  | case3 first rest more ih =>
    rcases List.mem_cons.mp member with rfl | later
    · exact List.subset_append_left name _
    · exact fun c inside => List.mem_append_right _ (List.mem_cons_of_mem _ (ih later inside))

/-- Between the segments that are put together there are only slashes. -/
theorem exists_of_mem_unite {names : List Text} {c : Char} (member : c ∈ unite names)
    (telling : c ≠ '/') : ∃ name ∈ names, c ∈ name := by
  fun_induction unite names with
  | case1 => simp at member
  | case2 only => exact ⟨only, by simp, member⟩
  | case3 first rest more ih =>
    rcases List.mem_append.mp member with inside | behind
    · exact ⟨first, by simp, inside⟩
    · rcases List.mem_cons.mp behind with slash | later
      · exact absurd slash telling
      · obtain ⟨name, listed, inside⟩ := ih later
        exact ⟨name, by simp [listed], inside⟩

/-- The segments of a path put together are the path. -/
theorem unite_splitOn (path : Text) : unite (Text.splitOn '/' path) = path := by
  -- A slash starts a new segment, and any other character joins the first one.
  induction path with
  | nil => rfl
  | cons c rest ih =>
    rw [Text.splitOn]
    cases pieces : Text.splitOn '/' rest with
    | nil => exact absurd pieces (Text.splitOn_ne_nil '/' rest)
    | cons first more =>
      rw [pieces] at ih
      by_cases slash : c = '/'
      · simp [slash, unite, ih]
      · -- The character stands in front of the first segment, whether others follow or not.
        rw [if_neg (by simpa using slash), ← ih]
        cases more <;> rfl

/-- The segments of a lead are the first segments of a path exactly if the lead is the path or a
slash follows it there. -/
theorem splitOn_isPrefix_iff {lead path : Text} :
    Text.splitOn '/' lead <+: Text.splitOn '/' path ↔ path = lead ∨ lead ++ ['/'] <+: path := by
  constructor
  · -- Put together, the segments of the lead give the lead, with a slash behind it if more follow.
    rintro ⟨more, joined⟩
    rw [← unite_splitOn path, ← joined]
    by_cases ends : more = []
    · rw [ends, List.append_nil, unite_splitOn]
      exact .inl rfl
    · rw [unite_append (Text.splitOn_ne_nil '/' lead) ends, unite_splitOn]
      exact .inr ⟨unite more, by simp⟩
  · -- A slash behind the lead cuts the path there, so the segments of the lead stay whole.
    rintro (rfl | ⟨rest, rfl⟩)
    · exact List.prefix_rfl
    · rw [List.append_assoc, List.singleton_append, Text.splitOn_append]
      exact List.prefix_append _ _

end PathText

end ImportOrder
