import ImportOrder.Attachment
import Mathlib.Data.List.Basic

/-! The pass that gives comments to statements: what a statement takes, and why no two statements take
the same. -/

namespace ImportOrder

namespace Attachment

/-- The comments in front of a statement move its start to the left, onto a comment that was free and
near enough. -/
theorem takeLeading_start (mode : CommentMode) (statement : ImportStatement)
    (comments : List Comment) (start : Int) (taken : Taken) :
    (takeLeading mode statement comments start taken).1 ≤ start ∧
      ((takeLeading mode statement comments start taken).1 = start ∨
        ∃ comment ∈ comments, (takeLeading mode statement comments start taken).1 = comment.start ∧
          key comment ∉ taken ∧ reaches mode statement comment = true) := by
  -- Start and taken comments both change on the way, so they are kept general.
  induction comments generalizing start taken with
  | nil => exact ⟨Int.le_refl start, .inl rfl⟩
  | cons comment rest ih =>
    -- A comment is taken if it is free, near enough and further to the left, and else it is passed
    -- over.
    unfold takeLeading
    split
    · next takes =>
      simp only [Bool.and_eq_true, Bool.not_eq_true', decide_eq_true_eq] at takes
      obtain ⟨⟨free, near⟩, less⟩ := takes
      have unclaimed : key comment ∉ taken := by
        intro claimed
        rw [List.contains_iff_mem.mpr claimed] at free
        contradiction
      obtain ⟨le, same | ⟨other, mem, found, fresh, close⟩⟩ := ih comment.start (key comment :: taken)
      · exact ⟨by omega, .inr ⟨comment, List.mem_cons_self .., same, unclaimed, near⟩⟩
      · -- What is free after this comment was taken was free before.
        have still : key other ∉ taken := fun claimed => fresh (List.mem_cons_of_mem _ claimed)
        exact ⟨by omega, .inr ⟨other, List.mem_cons_of_mem _ mem, found, still, close⟩⟩
    · obtain ⟨le, same | ⟨other, mem, found⟩⟩ := ih start taken
      · exact ⟨le, .inl same⟩
      · exact ⟨le, .inr ⟨other, List.mem_cons_of_mem _ mem, found⟩⟩

/-- The comments behind a statement move its stop to the right, onto the end of a comment that starts
on its last line. -/
theorem takeTrailing_stop (mode : CommentMode) (statement : ImportStatement)
    (comments : List Comment) (stop : Int) (taken : Taken) :
    stop ≤ (takeTrailing mode statement comments stop taken).1 ∧
      ((takeTrailing mode statement comments stop taken).1 = stop ∨
        ∃ comment ∈ comments, (takeTrailing mode statement comments stop taken).1 = comment.stop ∧
          mode ≠ .none ∧ comment.startLine = statement.stopLine) := by
  -- As in front, both change on the way. Here a comment is taken whether it is free or not.
  induction comments generalizing stop taken with
  | nil => exact ⟨Int.le_refl stop, .inl rfl⟩
  | cons comment rest ih =>
    unfold takeTrailing
    split
    · next takes =>
      simp only [Bool.and_eq_true, bne_iff_ne, ne_eq, beq_iff_eq] at takes
      obtain ⟨le, same | ⟨other, mem, found⟩⟩ := ih (max stop comment.stop) (key comment :: taken)
      · refine ⟨by omega, ?_⟩
        -- The greater of two stops is one of them.
        rcases Int.le_total comment.stop stop with short | long
        · exact .inl (by omega)
        · exact .inr ⟨comment, List.mem_cons_self .., by omega, takes⟩
      · exact ⟨by omega, .inr ⟨other, List.mem_cons_of_mem _ mem, found⟩⟩
    · obtain ⟨le, same | ⟨other, mem, found⟩⟩ := ih stop taken
      · exact ⟨le, .inl same⟩
      · exact ⟨le, .inr ⟨other, List.mem_cons_of_mem _ mem, found⟩⟩

/-- What was taken stays taken while a statement takes the comments behind it. -/
theorem takeTrailing_taken (mode : CommentMode) (statement : ImportStatement)
    (comments : List Comment) (stop : Int) (taken : Taken) :
    ∀ claimed ∈ taken, claimed ∈ (takeTrailing mode statement comments stop taken).2 := by
  -- Nothing is ever given back.
  induction comments generalizing stop taken with
  | nil =>
    intro claimed mem
    exact mem
  | cons comment rest ih =>
    intro claimed mem
    unfold takeTrailing
    split
    · exact ih _ _ claimed (List.mem_cons_of_mem _ mem)
    · exact ih _ _ claimed mem

/-- Every comment that starts on the last line of a statement is taken by it. -/
theorem takeTrailing_claims {mode : CommentMode} (some_mode : mode ≠ .none)
    (statement : ImportStatement) (comments : List Comment) (stop : Int) (taken : Taken) :
    ∀ comment ∈ comments, comment.startLine = statement.stopLine →
      key comment ∈ (takeTrailing mode statement comments stop taken).2 := by
  induction comments generalizing stop taken with
  | nil =>
    intro comment mem
    contradiction
  | cons head rest ih =>
    intro comment mem line
    unfold takeTrailing
    -- The comment is taken when its turn comes, and stays taken.
    rcases List.mem_cons.mp mem with rfl | later
    · rw [if_pos (by simp [some_mode, line])]
      exact takeTrailing_taken _ _ _ _ _ _ (List.mem_cons_self ..)
    · split
      · exact ih _ _ comment later line
      · exact ih _ _ comment later line

/-- A statement that lies in a text of a length together with the comments beside it. -/
structure Contained (length : Nat) (statement : ImportStatement) : Prop where
  lower : 0 ≤ statement.start
  ordered : statement.start ≤ statement.stop
  upper : statement.stop ≤ length
  leading : ∀ comment ∈ statement.leading, 0 ≤ comment.start
  trailing : ∀ comment ∈ statement.trailing, comment.stop ≤ length

/-- How a clip frames its statement, given what was taken before: each of its edges is one of the
statement or of a comment beside it that the statement may take. -/
structure Framed (mode : CommentMode) (taken : Taken) (clip : Clip) : Prop where
  -- In front it matters what was taken before; behind it matters on which line a comment starts.
  inner_start : (clip.inner.start : Int) = clip.statement.start
  inner_stop : (clip.inner.stop : Int) = clip.statement.stop
  start_le : clip.outer.start ≤ clip.inner.start
  le_stop : clip.inner.stop ≤ clip.outer.stop
  start : (clip.outer.start : Int) = clip.statement.start ∨
    ∃ comment ∈ clip.statement.leading, (clip.outer.start : Int) = comment.start ∧
      key comment ∉ taken
  stop : (clip.outer.stop : Int) = clip.statement.stop ∨
    ∃ comment ∈ clip.statement.trailing, (clip.outer.stop : Int) = comment.stop ∧
      mode ≠ .none ∧ comment.startLine = clip.statement.stopLine

/-- Two whole numbers in order, the first not negative, bound a span. -/
theorem ofInts_eq_ok {start stop : Int} (lower : 0 ≤ start) (ordered : start ≤ stop) :
    ∃ span : Span, Span.ofInts start stop = .ok span ∧ (span.start : Int) = start ∧
      (span.stop : Int) = stop := by
  refine ⟨⟨start.toNat, stop.toNat, by omega⟩, ?_, Int.toNat_of_nonneg lower,
    Int.toNat_of_nonneg (by omega)⟩
  rw [Span.ofInts, dif_pos ⟨lower, ordered⟩]

/-- A statement in the text gets its clip, and the comments on its last line are taken then. -/
theorem clip_eq_ok {source : Text} {statement : ImportStatement}
    (contained : Contained source.length statement) (mode : CommentMode) (taken : Taken) :
    ∃ found spent, clip mode source taken statement = .ok (found, spent) ∧
      found.statement = statement ∧ Framed mode taken found ∧
      (mode ≠ .none → ∀ comment ∈ statement.trailing, comment.startLine = statement.stopLine →
        key comment ∈ spent) := by
  obtain ⟨start_le, start⟩ :=
    takeLeading_start mode statement statement.leading statement.start taken
  -- From here on only the facts about what the two walks return are used.
  cases leading : takeLeading mode statement statement.leading statement.start taken with
  | mk first mid =>
  rw [leading] at start_le start
  obtain ⟨le_stop, stop⟩ :=
    takeTrailing_stop mode statement statement.trailing statement.stop mid
  have claims := fun some_mode : mode ≠ .none =>
    takeTrailing_claims some_mode statement statement.trailing statement.stop mid
  cases trailing : takeTrailing mode statement statement.trailing statement.stop mid with
  | mk last spent =>
  simp only [trailing] at le_stop stop claims
  have ordered := contained.ordered
  -- The outer start is that of the statement or of a comment, and none is negative.
  have lower : 0 ≤ first := by
    rcases start with same | ⟨comment, mem, same, -⟩
    · rw [show first = statement.start from same]
      exact contained.lower
    · rw [show first = comment.start from same]
      exact contained.leading comment mem
  -- The edges are in order and not negative, so both spans can be made.
  obtain ⟨inner, inner_eq, inner_start, inner_stop⟩ := ofInts_eq_ok contained.lower ordered
  have wide : first ≤ last := by omega
  obtain ⟨outer, outer_eq, outer_start, outer_stop⟩ := ofInts_eq_ok lower wide
  refine ⟨⟨statement, Text.slice source outer.start outer.stop, inner, outer⟩, spent, ?_, rfl, ?_,
    claims⟩
  · simp only [clip, leading, trailing, inner_eq, outer_eq]
    rfl
  · refine ⟨inner_start, inner_stop, ?_, ?_, ?_, ?_⟩
    · show outer.start ≤ inner.start
      omega
    · show inner.stop ≤ outer.stop
      omega
    · rcases start with same | ⟨comment, mem, same, free, -⟩
      · exact .inl (outer_start.trans same)
      · exact .inr ⟨comment, mem, outer_start.trans same, free⟩
    · rcases stop with same | ⟨comment, mem, same, line⟩
      · exact .inl (outer_stop.trans same)
      · exact .inr ⟨comment, mem, outer_stop.trans same, line⟩

/-- The clip of a statement in a text ends in the text. -/
theorem Framed.stop_le {mode : CommentMode} {taken : Taken} {clip : Clip}
    (framed : Framed mode taken clip) {length : Nat}
    (contained : Contained length clip.statement) : clip.outer.stop ≤ length := by
  -- The clip stops with its statement or with a comment, and both lie in the text.
  rcases framed.stop with same | ⟨comment, mem, same, -⟩
  · have upper := contained.upper
    omega
  · have upper := contained.trailing comment mem
    omega

/-- A statement behind another one, which shares with it at most the comments between them: where
the two meet, the comments from the first one on are comments of the first statement. -/
structure Follows (earlier later : ImportStatement) : Prop where
  statements : earlier.stop ≤ later.start
  leading : ∀ comment ∈ later.leading, earlier.stop ≤ comment.start
  trailing : ∀ comment ∈ earlier.trailing, comment.stop ≤ later.start
  -- Either the two comments do not meet, or the one in front of the later statement belongs to the
  -- earlier one as well.
  shared : ∀ left ∈ earlier.trailing, ∀ right ∈ later.leading, left.stop ≤ right.start ∨
    right ∈ earlier.trailing ∧ earlier.stopLine ≤ right.startLine ∧ right.startLine ≤ left.startLine

/-- A statement that lies behind an offset, and so do the comments in front of it that are free. -/
def Beyond (frontier : Int) (taken : Taken) (statement : ImportStatement) : Prop :=
  -- A comment that was taken may lie in front of the offset, since it cannot be taken again.
  frontier ≤ statement.start ∧
    ∀ comment ∈ statement.leading, key comment ∉ taken → frontier ≤ comment.start

/-- The clip of a statement that lies behind an offset starts behind it. -/
theorem Framed.beyond {mode : CommentMode} {taken : Taken} {clip : Clip}
    (framed : Framed mode taken clip) {frontier : Int}
    (beyond : Beyond frontier taken clip.statement) : frontier ≤ clip.outer.start := by
  rcases framed.start with same | ⟨comment, mem, same, free⟩
  · rw [same]
    exact beyond.1
  · rw [same]
    exact beyond.2 comment mem free

/-- A statement that follows a clip lies behind its end, once the comments on the last line of the
clip are taken. -/
theorem Framed.next {mode : CommentMode} {taken spent : Taken} {clip : Clip}
    (framed : Framed mode taken clip)
    (claims : mode ≠ .none → ∀ comment ∈ clip.statement.trailing,
      comment.startLine = clip.statement.stopLine → key comment ∈ spent)
    {later : ImportStatement} (follows : Follows clip.statement later) :
    Beyond clip.outer.stop spent later := by
  rcases framed.stop with same | ⟨left, left_mem, same, some_mode, line⟩
  · rw [same]
    exact ⟨follows.statements, fun comment mem _ => follows.leading comment mem⟩
  · rw [same]
    refine ⟨follows.trailing left left_mem, ?_⟩
    intro right right_mem free
    rcases follows.shared left left_mem right right_mem with le | ⟨mine, least, greatest⟩
    · exact le
    · -- A comment between the statement and the one it ends on is on the same line, hence taken.
      exact absurd (claims some_mode right mine (by omega)) free

/-- From left to right every statement gets its clip, and each clip starts where the last one has
stopped. -/
theorem clipsFrom_eq_ok {source : Text} {statements : List ImportStatement}
    (contained : ∀ statement ∈ statements, Contained source.length statement)
    (ordered : statements.Pairwise Follows) (mode : CommentMode) {taken : Taken} {frontier : Int}
    (beyond : ∀ statement ∈ statements, Beyond frontier taken statement) :
    ∃ clips, clipsFrom mode source taken statements = .ok clips ∧
      clips.map Clip.statement = statements ∧
      (∀ clip ∈ clips, ∃ taken, Framed mode taken clip) ∧
      (∀ clip ∈ clips, frontier ≤ clip.outer.start) ∧
      clips.Pairwise fun left right => left.outer.stop ≤ right.outer.start := by
  -- The frontier is the end of the last clip; what is free in front of the others lies behind it.
  induction statements generalizing taken frontier with
  | nil => exact ⟨[], rfl, rfl, by simp, by simp, List.Pairwise.nil⟩
  | cons statement rest ih =>
    obtain ⟨follows, tail⟩ := List.pairwise_cons.mp ordered
    have own := contained statement (List.mem_cons_self ..)
    -- The clip of the first statement sets the frontier for the others.
    obtain ⟨found, spent, clipped, rfl, framed, claims⟩ := clip_eq_ok own mode taken
    have next : ∀ later ∈ rest, Beyond found.outer.stop spent later :=
      fun later mem => framed.next claims (follows later mem)
    obtain ⟨clips, passed, same, frames, starts, ascending⟩ :=
      ih (fun later mem => contained later (List.mem_cons_of_mem _ mem)) tail next
    have first := framed.beyond (beyond found.statement (List.mem_cons_self ..))
    -- A statement in the text is not passed over.
    have inside : inside source.length found.statement = true := by
      simp [inside, own.lower, own.ordered, own.upper]
    refine ⟨found :: clips, ?_, ?_, ?_, ?_, ?_⟩
    · simp only [clipsFrom, inside, if_true, clipped, passed, Bind.bind, Except.bind]
      rfl
    · rw [List.map_cons, same]
    · intro clip mem
      rcases List.mem_cons.mp mem with rfl | later
      · exact ⟨taken, framed⟩
      · exact frames clip later
    · intro clip mem
      rcases List.mem_cons.mp mem with rfl | later
      · exact first
      · -- The later clips start behind this one, which starts behind the frontier.
        have after := starts clip later
        have span := found.outer.ordered
        omega
    · refine List.pairwise_cons.mpr ⟨?_, ascending⟩
      intro clip mem
      exact Int.ofNat_le.mp (starts clip mem)

end Attachment

end ImportOrder
