import ImportOrder.Proofs.Tree.Statements
import Mathlib.Data.List.Basic

/-! Every comment moves with at most one statement: the clips of a well-formed tree lie apart, touch no
other node that is not a comment, and cut no comment. -/

namespace ImportOrder

/-- The characters of a node lie in a span. -/
def Node.Within (text : Text) (node : Node) (span : Span) : Prop :=
  span.start ≤ Utf8.charOffset text node.start ∧ Utf8.charOffset text node.stop ≤ span.stop

/-- The characters of a node lie in front of a span or behind it. -/
def Node.Clear (text : Text) (node : Node) (span : Span) : Prop :=
  Utf8.charOffset text node.stop ≤ span.start ∨ span.stop ≤ Utf8.charOffset text node.start

namespace Attachment

/-- The clips of a tree are sound: from left to right, in the text, each around its statement, clear
of what is no comment, and with every comment in one of them or clear of all. -/
structure Exclusive (text : Text) (root : Node) (clips : List Clip) : Prop where
  inner : ∀ clip ∈ clips, (clip.inner.start : Int) = clip.statement.start ∧
    (clip.inner.stop : Int) = clip.statement.stop
  nested : ∀ clip ∈ clips, clip.outer.start ≤ clip.inner.start ∧ clip.inner.stop ≤ clip.outer.stop
  inside : ∀ clip ∈ clips, clip.outer.stop ≤ text.length
  ascending : clips.Pairwise fun left right => left.outer.stop ≤ right.outer.start
  siblings : ∀ clip ∈ clips, ∃ before node behind, root.children = before ++ node :: behind ∧
    Tree.statement? text before.reverse node behind = .ok (some clip.statement) ∧
    ∀ other ∈ before ++ behind, Tree.isComment other = false → other.Clear text clip.outer
  comments : ∀ comment ∈ root.children, Tree.isComment comment = true →
    (∃ left clip right, clips = left ++ clip :: right ∧ comment.Within text clip.outer ∧
      ∀ other ∈ left ++ right,
        comment.Clear text other.outer ∧ ¬ comment.Within text other.outer) ∨
    ∀ clip ∈ clips, comment.Clear text clip.outer

/-- A span that starts and stops where a statement may, together with the comments beside it. -/
def Edged (text : Text) (before : List Node) (node : Node) (behind : List Node) (span : Span) :
    Prop :=
  ∃ first last, span.start = Utf8.charOffset text first ∧ span.stop = Utf8.charOffset text last ∧
    Tree.StartEdge before node first ∧ Tree.StopEdge node behind last

section Edges

variable {text : Text} {before behind : List Node} {node : Node}

/-- The clip of a statement has such edges. -/
theorem Framed.edged {mode : CommentMode} {taken : Taken} {clip : Clip}
    (framed : Framed mode taken clip)
    (laid : Tree.Laid text 0 (Utf8.length text) (before.reverse ++ node :: behind))
    (inner : node.kind = Tree.importKind → Tree.Laid text node.start node.stop node.children)
    (found : Tree.statement? text before node behind = .ok (some clip.statement)) :
    Edged text before node behind clip.outer := by
  -- That the comments were free and near enough plays no part in where they stand.
  have start : (clip.outer.start : Int) = clip.statement.start ∨
      ∃ comment ∈ clip.statement.leading, (clip.outer.start : Int) = comment.start :=
    framed.start.imp_right fun ⟨comment, mem, same, _⟩ => ⟨comment, mem, same⟩
  have stop : (clip.outer.stop : Int) = clip.statement.stop ∨
      ∃ comment ∈ clip.statement.trailing, (clip.outer.stop : Int) = comment.stop :=
    framed.stop.imp_right fun ⟨comment, mem, same, _⟩ => ⟨comment, mem, same⟩
  obtain ⟨first, first_eq, is_start⟩ := Tree.statement_startEdge laid inner found start
  obtain ⟨last, last_eq, is_stop⟩ := Tree.statement_stopEdge laid inner found stop
  exact ⟨first, last, Int.ofNat_inj.mp first_eq, Int.ofNat_inj.mp last_eq, is_start, is_stop⟩

/-- Such a span is clear of every other node that is no comment. -/
theorem Edged.clear {span : Span} (edged : Edged text before node behind span) {other : Node}
    (mem : other ∈ before ∨ other ∈ behind) (token : Tree.isComment other = false) :
    other.Clear text span := by
  obtain ⟨first, last, start, stop, is_start, is_stop⟩ := edged
  unfold Node.Clear
  rw [start, stop]
  -- The two edges keep off what is in front and what is behind.
  rcases mem with front | back
  · exact .inl (Utf8.charOffset_mono text (is_start.clear other front token))
  · exact .inr (Utf8.charOffset_mono text (is_stop.clear other back token))

/-- Such a span cuts none of the nodes beside its own. -/
theorem Edged.within_or_clear {span : Span} (edged : Edged text before node behind span)
    (laid : Tree.Laid text 0 (Utf8.length text) (before.reverse ++ node :: behind)) {other : Node}
    (mem : other ∈ before ∨ other ∈ behind) :
    other.Within text span ∨ other.Clear text span := by
  obtain ⟨first, last, start, stop, is_start, is_stop⟩ := edged
  unfold Node.Within Node.Clear
  rw [start, stop]
  obtain ⟨front_le, le_back⟩ := laid.around
  rcases mem with front | back
  · -- A node in front of the statement ends before any place where the span may stop.
    have before_stop := front_le other (List.mem_reverse.mpr front)
    rcases is_start.apart other front with le | le
    · exact .inr (.inl (Utf8.charOffset_mono text le))
    · have reached := Nat.le_trans before_stop is_stop.reached
      exact .inl ⟨Utf8.charOffset_mono text le, Utf8.charOffset_mono text reached⟩
  · -- A node behind the statement starts after any place where the span may start.
    have after_start := le_back other back
    rcases is_stop.apart other back with le | le
    · have reached := Nat.le_trans is_start.reached after_start
      exact .inl ⟨Utf8.charOffset_mono text reached, Utf8.charOffset_mono text le⟩
    · exact .inr (.inr (Utf8.charOffset_mono text le))

end Edges

/-- Where a comment lies in one of some clips that ascend, it is clear of all the others. -/
theorem comment_exclusive {text : Text} {comment : Node} {clips : List Clip}
    (ascending : clips.Pairwise fun left right => left.outer.stop ≤ right.outer.start)
    (filled : Utf8.charOffset text comment.start < Utf8.charOffset text comment.stop)
    (cuts : ∀ clip ∈ clips, comment.Within text clip.outer ∨ comment.Clear text clip.outer) :
    (∃ left clip right, clips = left ++ clip :: right ∧ comment.Within text clip.outer ∧
      ∀ other ∈ left ++ right,
        comment.Clear text other.outer ∧ ¬ comment.Within text other.outer) ∨
    ∀ clip ∈ clips, comment.Clear text clip.outer := by
  by_cases some_clip : ∃ clip ∈ clips, comment.Within text clip.outer
  · left
    obtain ⟨clip, mem, within⟩ := some_clip
    obtain ⟨front, back, rfl⟩ := List.append_of_mem mem
    obtain ⟨-, tail, across⟩ := List.pairwise_append.mp ascending
    refine ⟨front, clip, back, rfl, within, ?_⟩
    intro other other_mem
    have clear : comment.Clear text other.outer := by
      -- Clips in front end before this one starts, and those behind start after it ends.
      rcases List.mem_append.mp other_mem with earlier | later
      · have le := across other earlier clip (List.mem_cons_self ..)
        exact .inr (Nat.le_trans le within.1)
      · have le := (List.pairwise_cons.mp tail).1 other later
        exact .inl (Nat.le_trans within.2 le)
    refine ⟨clear, ?_⟩
    -- A comment with a character in it cannot be both beside a span and in it.
    rintro ⟨start, stop⟩
    rcases clear with le | le
    · omega
    · omega
  · right
    intro clip mem
    rcases cuts clip mem with within | clear
    · exact absurd ⟨clip, mem, within⟩ some_clip
    · exact clear

/-- Every clip of a well-formed tree belongs to one of its nodes and has the edges of that node. -/
theorem clip_place {text : Text} {root : Node} (formed : Tree.WellFormed text root)
    {statements : List ImportStatement} (told : Tree.imports text root = .ok statements)
    {mode : CommentMode} {taken : Taken} {clip : Clip} (framed : Framed mode taken clip)
    (mem : clip.statement ∈ statements) :
    ∃ before node behind, root.children = before ++ node :: behind ∧
      Tree.statement? text before.reverse node behind = .ok (some clip.statement) ∧
      Tree.Laid text 0 (Utf8.length text) (before.reverse.reverse ++ node :: behind) ∧
      Edged text before.reverse node behind clip.outer := by
  -- The node is that of the clip's statement.
  obtain ⟨before, node, behind, split, found⟩ := Tree.mem_importsFrom told mem
  rw [List.append_nil] at found
  have laid : Tree.Laid text 0 (Utf8.length text) (before.reverse.reverse ++ node :: behind) := by
    rw [List.reverse_reverse, ← split]
    exact formed.top
  have inner := formed.inner node (by rw [split]; simp)
  exact ⟨before, node, behind, split, found, laid, framed.edged laid inner found⟩

/-- A comment among the nodes of a tree stands beside the node of a statement. -/
theorem comment_beside {text : Text} {before behind : List Node} {node comment : Node}
    {statement : ImportStatement}
    (found : Tree.statement? text before.reverse node behind = .ok (some statement))
    (mem : comment ∈ before ++ node :: behind) (is_comment : Tree.isComment comment = true) :
    comment ∈ before.reverse ∨ comment ∈ behind := by
  rcases List.mem_append.mp mem with front | here_or_back
  · exact .inl (List.mem_reverse.mpr front)
  · rcases List.mem_cons.mp here_or_back with rfl | back
    · -- The node of the statement itself is no comment.
      have token := Tree.isComment_import (Tree.statement?_eq_some found).1
      rw [token] at is_comment
      contradiction
    · exact .inr back

/-- Every comment moves with at most one statement: in every mode the statements of a well-formed tree
all get their clips, and these are sound. -/
theorem clips_exclusive {text : Text} {root : Node} (formed : Tree.WellFormed text root)
    (mode : CommentMode) :
    ∃ statements found, Tree.imports text root = .ok statements ∧
      clips mode text statements = .ok found ∧ found.map Clip.statement = statements ∧
      Exclusive text root found := by
  obtain ⟨statements, told, ordered⟩ := Tree.imports_eq_ok formed
  have contained := Tree.imports_contained formed told
  -- Nothing is taken before the first statement, and no statement starts before the text.
  have beyond : ∀ statement ∈ statements, Beyond 0 [] statement := fun statement mem =>
    ⟨(contained statement mem).lower, fun comment near _ =>
      (contained statement mem).leading comment near⟩
  obtain ⟨found, passed, same, frames, -, ascending⟩ :=
    clipsFrom_eq_ok contained ordered mode beyond
  have own : ∀ clip ∈ found, clip.statement ∈ statements := by
    intro clip mem
    rw [← same]
    exact List.mem_map_of_mem mem
  -- Each part of the statement is read off the frames and the places of the clips.
  refine ⟨statements, found, told, passed, same, ?_, ?_, ?_, ascending, ?_, ?_⟩
  · intro clip mem
    obtain ⟨taken, framed⟩ := frames clip mem
    exact ⟨framed.inner_start, framed.inner_stop⟩
  · intro clip mem
    obtain ⟨taken, framed⟩ := frames clip mem
    exact ⟨framed.start_le, framed.le_stop⟩
  · intro clip mem
    obtain ⟨taken, framed⟩ := frames clip mem
    exact framed.stop_le (contained clip.statement (own clip mem))
  · intro clip mem
    obtain ⟨taken, framed⟩ := frames clip mem
    obtain ⟨before, node, behind, split, at_node, -, edged⟩ :=
      clip_place formed told framed (own clip mem)
    refine ⟨before, node, behind, split, at_node, ?_⟩
    intro other beside token
    refine edged.clear ?_ token
    rcases List.mem_append.mp beside with front | back
    · exact .inl (List.mem_reverse.mpr front)
    · exact .inr back
  · intro comment mem is_comment
    obtain ⟨start, stop⟩ := formed.top.whole comment mem
    have filled := Utf8.charOffset_lt start stop (formed.top.filled comment mem is_comment)
    refine comment_exclusive ascending filled ?_
    intro clip clip_mem
    obtain ⟨taken, framed⟩ := frames clip clip_mem
    obtain ⟨before, node, behind, split, at_node, laid, edged⟩ :=
      clip_place formed told framed (own clip clip_mem)
    exact edged.within_or_clear laid (comment_beside at_node (split ▸ mem) is_comment)

/-- Two statements with a comment at the end of the first line and one at the start of the second. -/
def sharedText : Text := "import \"a\"; // é\n/* y */ import \"b\";\nrun();\n".toList

/-- The tree of that text; a letter of two bytes sets its offsets apart from those of the characters.
-/
def sharedRoot : Node where
  kind := "program"
  start := 0
  stop := 45
  children :=
    [ { kind := "import_statement", start := 0, stop := 11, children :=
          [ { kind := "import", start := 0, stop := 6 },
            { kind := "string", start := 7, stop := 10, role := some "source" },
            { kind := ";", start := 10, stop := 11 } ] },
      { kind := "comment", start := 12, stop := 17 },
      { kind := "comment", start := 18, stop := 25 },
      { kind := "import_statement", start := 26, stop := 37, children :=
          [ { kind := "import", start := 26, stop := 32 },
            { kind := "string", start := 33, stop := 36, role := some "source" },
            { kind := ";", start := 36, stop := 37 } ] },
      { kind := "expression_statement", start := 38, stop := 44 } ]

/-- Both statements see both comments, and each comment goes with the statement on its line. -/
theorem clips_exclusive_shared : Tree.WellFormed sharedText sharedRoot ∧
    ∃ statements found, Tree.imports sharedText sharedRoot = .ok statements ∧
      clips .prevLine sharedText statements = .ok found ∧
      found.map (fun clip => (clip.outer.start, clip.outer.stop)) = [(0, 16), (17, 36)] ∧
      Exclusive sharedText sharedRoot found := by
  have formed : Tree.WellFormed sharedText sharedRoot := by decide +kernel
  obtain ⟨statements, found, told, passed, -, sound⟩ := clips_exclusive formed .prevLine
  refine ⟨formed, statements, found, told, passed, ?_, sound⟩
  have outers : ((Tree.imports sharedText sharedRoot).toOption.bind fun statements =>
      (clips .prevLine sharedText statements).toOption.map fun found =>
        found.map fun clip => (clip.outer.start, clip.outer.stop)) = some [(0, 16), (17, 36)] := by
    decide +kernel
  rw [told] at outers
  simpa [Except.toOption, passed] using outers

end Attachment

end ImportOrder
