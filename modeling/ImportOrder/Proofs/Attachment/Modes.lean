import ImportOrder.Proofs.Tree.Statements
import Mathlib.Data.List.Forall2

/-! A mode that reaches further gives every statement what a narrower mode gives it, and maybe more in
front. -/

namespace ImportOrder

/-- A span is known by its bounds. -/
theorem Span.eq_of_bounds {span other : Span} (start : span.start = other.start)
    (stop : span.stop = other.stop) : span = other := by
  cases span
  cases other
  simp_all

namespace Attachment

/-- No comment in front of a statement that is free and near enough starts further to the left than
the statement does once it has taken its comments. -/
theorem takeLeading_le {mode : CommentMode} {statement : ImportStatement} {comments : List Comment}
    (start : Int) {taken : Taken} {comment : Comment} (mem : comment ∈ comments)
    (free : key comment ∉ taken) (near : reaches mode statement comment = true) :
    (takeLeading mode statement comments start taken).1 ≤ comment.start := by
  induction comments generalizing start taken with
  | nil => contradiction
  | cons head rest ih =>
    unfold takeLeading
    split
    · have passed := (takeLeading_start mode statement rest head.start (key head :: taken)).1
      -- A comment with the offsets of the one just taken counts as taken, and starts where that does.
      by_cases same : key comment = key head
      · rw [show comment.start = head.start from congrArg Prod.fst same]
        exact passed
      · have later : comment ∈ rest := by
          rcases List.mem_cons.mp mem with rfl | later
          · exact absurd rfl same
          · exact later
        exact ih _ later (by simp [same, free])
    · next kept =>
      rcases List.mem_cons.mp mem with rfl | later
      · -- The comment was passed over though free and near enough, so it is not further left.
        have passed := (takeLeading_start mode statement rest start taken).1
        have short : ¬comment.start < start := by
          intro less
          exact kept (by simp [free, near, less])
        omega
      · exact ih _ later free

/-- What a statement takes in front of it starts to the left of it, so nothing else is taken then. -/
theorem mem_takeLeading {mode : CommentMode} {statement : ImportStatement} {comments : List Comment}
    {start : Int} {taken : Taken} {claimed : Int × Int} (right : start ≤ claimed.1) :
    claimed ∈ (takeLeading mode statement comments start taken).2 ↔ claimed ∈ taken := by
  induction comments generalizing start taken with
  | nil => rfl
  | cons comment rest ih =>
    unfold takeLeading
    split
    · next takes =>
      simp only [Bool.and_eq_true, decide_eq_true_eq] at takes
      rw [ih (by omega), List.mem_cons]
      -- The comment taken here starts further to the left.
      have other : claimed ≠ key comment := by
        rintro rfl
        exact absurd right (Int.not_le.mpr takes.2)
      simp [other]
    · exact ih right

/-- Two modes that take comments at all take the same ones behind a statement. -/
theorem takeTrailing_alike {mode other : CommentMode} (some_mode : mode ≠ .none)
    (some_other : other ≠ .none) (statement : ImportStatement) (comments : List Comment) (stop : Int)
    (taken taken' : Taken) :
    (takeTrailing mode statement comments stop taken).1 =
        (takeTrailing other statement comments stop taken').1 ∧
      ∀ claimed, (claimed ∈ taken ↔ claimed ∈ taken') →
        (claimed ∈ (takeTrailing mode statement comments stop taken).2 ↔
          claimed ∈ (takeTrailing other statement comments stop taken').2) := by
  -- Both walks make the same choices, so they stay together from comment to comment.
  induction comments generalizing stop taken taken' with
  | nil => exact ⟨rfl, fun _ agree => agree⟩
  | cons comment rest ih =>
    unfold takeTrailing
    by_cases line : comment.startLine = statement.stopLine
    · rw [if_pos (by simp [some_mode, line]), if_pos (by simp [some_other, line])]
      obtain ⟨stops, taking⟩ := ih (max stop comment.stop) (key comment :: taken)
        (key comment :: taken')
      refine ⟨stops, fun claimed agree => taking claimed ?_⟩
      rw [List.mem_cons, List.mem_cons, agree]
    · rw [if_neg (by simp [line]), if_neg (by simp [line])]
      exact ih stop taken taken'

/-- The bounds of a span are the whole numbers that it was made from. -/
theorem of_ofInts_eq_ok {start stop : Int} {span : Span} (made : Span.ofInts start stop = .ok span) :
    (span.start : Int) = start ∧ (span.stop : Int) = stop := by
  unfold Span.ofInts at made
  split at made
  · cases made
    simp only
    omega
  · contradiction

/-- The walk over the comments in front of a statement: where it starts then, and what is taken. -/
def leadingWalk (mode : CommentMode) (taken : Taken) (statement : ImportStatement) : Int × Taken :=
  takeLeading mode statement statement.leading statement.start taken

/-- The walk over the comments behind a statement, which comes after the one in front. -/
def trailingWalk (mode : CommentMode) (taken : Taken) (statement : ImportStatement) : Int × Taken :=
  takeTrailing mode statement statement.trailing statement.stop (leadingWalk mode taken statement).2

/-- A clip has its edges where the two walks of its statement have ended. -/
structure Walked (mode : CommentMode) (taken spent : Taken) (clip : Clip) : Prop where
  -- The walk in front comes first, since the one behind goes on with what that one has taken.
  inner_start : (clip.inner.start : Int) = clip.statement.start
  inner_stop : (clip.inner.stop : Int) = clip.statement.stop
  start : (clip.outer.start : Int) = (leadingWalk mode taken clip.statement).1
  stop : (clip.outer.stop : Int) = (trailingWalk mode taken clip.statement).1
  spent_eq : spent = (trailingWalk mode taken clip.statement).2

/-- A statement in the text gets the clip on which its walks end. -/
theorem clip_walked {source : Text} {statement : ImportStatement}
    (contained : Contained source.length statement) (mode : CommentMode) (taken : Taken) :
    ∃ found spent, clip mode source taken statement = .ok (found, spent) ∧
      found.statement = statement ∧ Walked mode taken spent found := by
  obtain ⟨found, spent, done, -⟩ := clip_eq_ok contained mode taken
  refine ⟨found, spent, done, ?_⟩
  -- The clip was made, so both pairs of offsets bounded a span.
  change (do
    let inner ← Span.ofInts statement.start statement.stop
    let outer ← Span.ofInts (leadingWalk mode taken statement).1 (trailingWalk mode taken statement).1
    return (⟨statement, Text.slice source outer.start outer.stop, inner, outer⟩,
      (trailingWalk mode taken statement).2)) = Except.ok (found, spent) at done
  -- An offset that bounded no span would have ended the run.
  cases inner : Span.ofInts statement.start statement.stop with
  | error fault => simp [inner, Bind.bind, Except.bind] at done
  | ok within =>
    cases outer : Span.ofInts (leadingWalk mode taken statement).1
        (trailingWalk mode taken statement).1 with
    | error fault => simp [inner, outer, Bind.bind, Except.bind] at done
    | ok around =>
      simp only [inner, outer, Bind.bind, Except.bind, pure, Except.pure, Except.ok.injEq,
        Prod.mk.injEq] at done
      obtain ⟨rfl, rfl⟩ := done
      obtain ⟨inner_start, inner_stop⟩ := of_ofInts_eq_ok inner
      obtain ⟨start, stop⟩ := of_ofInts_eq_ok outer
      exact ⟨rfl, inner_start, inner_stop, start, stop, rfl⟩

/-- A clip of the same statement with at least the text of another one. -/
structure Widens (narrow wide : Clip) : Prop where
  statement : wide.statement = narrow.statement
  inner : wide.inner = narrow.inner
  start : wide.outer.start ≤ narrow.outer.start
  stop : narrow.outer.stop ≤ wide.outer.stop

/-- Clips of one statement have the same inner span, whatever the modes and what was taken. -/
theorem Walked.inner_eq {mode other : CommentMode} {taken taken' spent spent' : Taken}
    {left right : Clip} (walked : Walked mode taken spent left)
    (walked' : Walked other taken' spent' right) (same : right.statement = left.statement) :
    right.inner = left.inner := by
  have starts := walked'.inner_start
  have stops := walked'.inner_stop
  rw [same] at starts stops
  have starts' := walked.inner_start
  have stops' := walked.inner_stop
  -- Both have the bounds of the statement.
  exact Span.eq_of_bounds (by omega) (by omega)

/-- Without comments a clip is its statement. -/
theorem Walked.bare {taken spent : Taken} {clip : Clip} (walked : Walked .none taken spent clip) :
    clip.outer = clip.inner := by
  obtain ⟨-, start⟩ := takeLeading_start .none clip.statement clip.statement.leading
    clip.statement.start taken
  obtain ⟨-, stop⟩ := takeTrailing_stop .none clip.statement clip.statement.trailing
    clip.statement.stop (leadingWalk .none taken clip.statement).2
  -- No comment is near enough in front, and none is taken behind.
  have first : clip.outer.start = clip.inner.start := by
    have edge := walked.start
    have own := walked.inner_start
    rcases start with same | ⟨comment, -, -, -, near⟩
    · rw [leadingWalk, same] at edge
      omega
    · contradiction
  have last : clip.outer.stop = clip.inner.stop := by
    have edge := walked.stop
    have own := walked.inner_stop
    rcases stop with same | ⟨comment, -, -, some_mode, -⟩
    · rw [trailingWalk, same] at edge
      omega
    · contradiction
  exact Span.eq_of_bounds first last

/-- In every mode a clip holds the statement itself, which is all that there is without comments. -/
theorem Walked.widens_bare {mode : CommentMode} {idle unused taken spent : Taken}
    {plain clip : Clip} (bare : Walked .none idle unused plain)
    (walked : Walked mode taken spent clip) (same : clip.statement = plain.statement) :
    Widens plain clip := by
  have inner := bare.inner_eq walked same
  obtain ⟨before, -⟩ := takeLeading_start mode clip.statement clip.statement.leading
    clip.statement.start taken
  obtain ⟨behind, -⟩ := takeTrailing_stop mode clip.statement clip.statement.trailing
    clip.statement.stop (leadingWalk mode taken clip.statement).2
  have start := walked.start
  have stop := walked.stop
  have first := walked.inner_start
  have last := walked.inner_stop
  rw [leadingWalk] at start
  rw [trailingWalk] at stop
  -- The walks move the edges outwards only.
  refine ⟨same, inner, ?_, ?_⟩
  · rw [bare.bare, ← inner]
    omega
  · rw [bare.bare, ← inner]
    omega

section Nested

variable {taken taken' spent spent' : Taken} {narrow wide : Clip}
  (walked : Walked .sameLine taken spent narrow) (walked' : Walked .prevLine taken' spent' wide)
  (same : wide.statement = narrow.statement)
include walked walked' same

/-- Where two runs agree on which comments in front of a statement are free, the mode that reaches
further up starts no later and stops at the same place. -/
theorem Walked.nested
    (agree : ∀ comment ∈ narrow.statement.leading, (key comment ∈ taken ↔ key comment ∈ taken')) :
    Widens narrow wide ∧ wide.outer.stop = narrow.outer.stop := by
  have start := walked.start
  have start' := walked'.start
  have stop := walked.stop
  have stop' := walked'.stop
  rw [same] at start' stop'
  -- The walk behind the statement does not look at what is taken.
  have ends : wide.outer.stop = narrow.outer.stop := by
    have alike : (trailingWalk .sameLine taken narrow.statement).1 =
        (trailingWalk .prevLine taken' narrow.statement).1 :=
      (takeTrailing_alike (by decide) (by decide) _ _ _ _ _).1
    omega
  refine ⟨⟨same, walked.inner_eq walked' same, ?_, by omega⟩, ends⟩
  obtain ⟨least, -⟩ := takeLeading_start .prevLine narrow.statement narrow.statement.leading
    narrow.statement.start taken'
  obtain ⟨-, own | ⟨comment, mem, found, free, near⟩⟩ := takeLeading_start .sameLine
    narrow.statement narrow.statement.leading narrow.statement.start taken
  · rw [leadingWalk, own] at start
    rw [leadingWalk] at start'
    omega
  · -- The comment that the narrow clip starts with is free and near enough for the wide one as well.
    have free' : key comment ∉ taken' := fun claimed => free ((agree comment mem).mpr claimed)
    have near' : reaches .prevLine narrow.statement comment = true := by
      simp only [reaches, beq_iff_eq, decide_eq_true_eq] at near ⊢
      omega
    have reached := takeLeading_le narrow.statement.start mem free' near'
    rw [leadingWalk, found] at start
    rw [leadingWalk] at start'
    omega

/-- Two runs that agree on the comments in front of a later statement still do so behind this one. -/
theorem Walked.agree {later : ImportStatement} (follows : Follows narrow.statement later)
    (agree : ∀ comment ∈ later.leading, (key comment ∈ taken ↔ key comment ∈ taken')) :
    ∀ comment ∈ later.leading, (key comment ∈ spent ↔ key comment ∈ spent') := by
  intro comment mem
  -- The comment stands behind this statement, so neither walk in front of it has taken it.
  have right : narrow.statement.start ≤ (key comment).1 := by
    have behind : narrow.statement.stop ≤ (key comment).1 := follows.leading comment mem
    have first := walked.inner_start
    have last := walked.inner_stop
    have ordered := narrow.inner.ordered
    omega
  -- The walks in front look to the left of the statement, and the walks behind take the same
  -- comments in both modes.
  rw [walked.spent_eq, walked'.spent_eq, same]
  refine (takeTrailing_alike (by decide) (by decide) narrow.statement narrow.statement.trailing
    narrow.statement.stop _ _).2 (key comment) ?_
  rw [leadingWalk, leadingWalk, mem_takeLeading right, mem_takeLeading right]
  exact agree comment mem

end Nested

/-- A statement in the text is not passed over. -/
theorem clipsFrom_cons {source : Text} {statement : ImportStatement} {rest : List ImportStatement}
    (contained : Contained source.length statement) {mode : CommentMode} {taken spent : Taken}
    {found : Clip} {others : List Clip}
    (clipped : clip mode source taken statement = .ok (found, spent))
    (passed : clipsFrom mode source spent rest = .ok others) :
    clipsFrom mode source taken (statement :: rest) = .ok (found :: others) := by
  have inside : inside source.length statement = true := by
    simp [inside, contained.lower, contained.ordered, contained.upper]
  simp only [clipsFrom, inside, if_true, clipped, passed, Bind.bind, Except.bind]
  rfl

/-- The clips of the same statements without comments, with those on their own lines, and with those
one line further up. -/
structure Nested (plain narrow wide : List Clip) : Prop where
  bare : ∀ clip ∈ plain, clip.outer = clip.inner
  sameLine : List.Forall₂ Widens plain narrow
  prevLine : List.Forall₂ Widens narrow wide
  -- Reaching further up makes no difference behind a statement.
  stops : List.Forall₂ (fun left right => left.outer.stop = right.outer.stop) narrow wide

/-- Three runs over the same statements, one for each mode, give clips that hold one another, if the
two runs that take comments agree on those in front of the statements to come. -/
theorem clipsFrom_nested {source : Text} {statements : List ImportStatement}
    (contained : ∀ statement ∈ statements, Contained source.length statement)
    (ordered : statements.Pairwise Follows) (idle : Taken) {taken taken' : Taken}
    (agree : ∀ statement ∈ statements, ∀ comment ∈ statement.leading,
      (key comment ∈ taken ↔ key comment ∈ taken')) :
    ∃ plain narrow wide, clipsFrom .none source idle statements = .ok plain ∧
      clipsFrom .sameLine source taken statements = .ok narrow ∧
      clipsFrom .prevLine source taken' statements = .ok wide ∧
      plain.map Clip.statement = statements ∧ Nested plain narrow wide := by
  -- What is taken differs from run to run, but not where a later statement looks.
  induction statements generalizing idle taken taken' with
  | nil => exact ⟨[], [], [], rfl, rfl, rfl, rfl, by simp, .nil, .nil, .nil⟩
  | cons statement rest ih =>
    obtain ⟨follows, tail⟩ := List.pairwise_cons.mp ordered
    have own := contained statement (List.mem_cons_self ..)
    obtain ⟨bare, unused, clipped, rfl, walked⟩ := clip_walked own .none idle
    obtain ⟨left, spent, clipped', same, walked'⟩ := clip_walked own .sameLine taken
    obtain ⟨right, spent', clipped'', same', walked''⟩ := clip_walked own .prevLine taken'
    have widens := same'.trans same.symm
    -- What the first statement takes is compared here, and what is left for the others below.
    obtain ⟨wider, stop⟩ := walked'.nested walked'' widens
      (by rw [same]; exact agree _ (List.mem_cons_self ..))
    obtain ⟨plain, narrow, wide, passed, passed', passed'', all, nested⟩ :=
      ih (fun later mem => contained later (List.mem_cons_of_mem _ mem)) tail unused
        fun later mem => walked'.agree walked'' widens (by rw [same]; exact follows later mem)
          (agree later (List.mem_cons_of_mem _ mem))
    refine ⟨bare :: plain, left :: narrow, right :: wide, clipsFrom_cons own clipped passed,
      clipsFrom_cons own clipped' passed', clipsFrom_cons own clipped'' passed'', ?_, ?_, ?_, ?_, ?_⟩
    · rw [List.map_cons, all]
    · intro clip mem
      rcases List.mem_cons.mp mem with rfl | later
      · exact walked.bare
      · exact nested.bare clip later
    · exact .cons (walked.widens_bare walked' same) nested.sameLine
    · exact .cons wider nested.prevLine
    · exact .cons stop.symm nested.stops

/-- The three modes are nested: each of them gives a clip to every statement of a well-formed tree,
around the same statement. Without comments that is the whole clip, the comments of its own lines
make it wider, and those one line further up wider again, but only in front. -/
theorem modes_nested {text : Text} {root : Node} (formed : Tree.WellFormed text root) :
    ∃ statements plain narrow wide, Tree.imports text root = .ok statements ∧
      clips .none text statements = .ok plain ∧ clips .sameLine text statements = .ok narrow ∧
      clips .prevLine text statements = .ok wide ∧ plain.map Clip.statement = statements ∧
      Nested plain narrow wide := by
  obtain ⟨statements, told, ordered⟩ := Tree.imports_eq_ok formed
  have contained := Tree.imports_contained formed told
  -- Nothing is taken in front of the first statement, in any mode.
  obtain ⟨plain, narrow, wide, passed⟩ :=
    clipsFrom_nested contained ordered [] fun _ _ _ _ => Iff.rfl
  exact ⟨statements, plain, narrow, wide, told, passed⟩

/-- A statement with a comment on the line above it, one in front of it and one behind it. -/
def stackedText : Text := "// x\n/* é */ import \"a\"; // z\n".toList

/-- The tree of that text. -/
def stackedRoot : Node where
  kind := "program"
  start := 0
  stop := 31
  children :=
    [ { kind := "comment", start := 0, stop := 4 },
      { kind := "comment", start := 5, stop := 13 },
      { kind := "import_statement", start := 14, stop := 25, children :=
          [ { kind := "import", start := 14, stop := 20 },
            { kind := "string", start := 21, stop := 24, role := some "source" },
            { kind := ";", start := 24, stop := 25 } ] },
      { kind := "comment", start := 26, stop := 30 } ]

/-- The three modes give the statement three different clips. -/
theorem modes_nested_stacked : Tree.WellFormed stackedText stackedRoot ∧
    ∃ statements plain narrow wide, Tree.imports stackedText stackedRoot = .ok statements ∧
      clips .none stackedText statements = .ok plain ∧
      clips .sameLine stackedText statements = .ok narrow ∧
      clips .prevLine stackedText statements = .ok wide ∧
      ([plain, narrow, wide].map fun found =>
        found.map fun clip => (clip.outer.start, clip.outer.stop)) =
        [[(13, 24)], [(5, 29)], [(0, 29)]] ∧
      Nested plain narrow wide := by
  have formed : Tree.WellFormed stackedText stackedRoot := by decide +kernel
  obtain ⟨statements, plain, narrow, wide, told, passed, passed', passed'', -, nested⟩ :=
    modes_nested formed
  refine ⟨formed, statements, plain, narrow, wide, told, passed, passed', passed'', ?_, nested⟩
  have outers : ((Tree.imports stackedText stackedRoot).toOption.bind fun statements =>
      [CommentMode.none, .sameLine, .prevLine].mapM fun mode =>
        (clips mode stackedText statements).toOption.map fun found =>
          found.map fun clip => (clip.outer.start, clip.outer.stop)) =
      some [[(13, 24)], [(5, 29)], [(0, 29)]] := by
    decide +kernel
  rw [told] at outers
  simpa [Except.toOption, passed, passed', passed''] using outers

end Attachment

end ImportOrder
