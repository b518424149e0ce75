import ImportOrder.Proofs.Tree.Census
import ImportOrder.Source.Imports
import Mathlib.Data.List.DropRight

/-! The order in which a statement has its comments. Those in front of it come in the order of the
text. Of those behind it, the ones in the statement's own node come first and from right to left, so
that two of them are out of order. -/

namespace ImportOrder

/-- Comments one behind the other in the text. -/
def Comment.Ascending (comments : List Comment) : Prop :=
  comments.Pairwise fun left right => left.start < right.start

instance (comments : List Comment) : Decidable (Comment.Ascending comments) :=
  inferInstanceAs (Decidable (comments.Pairwise fun left right => left.start < right.start))

namespace Tree

variable {text : Text} {low high : Nat}

/-- The comments that a node begins with. -/
def opening (node : Node) : List Node := node.children.takeWhile isComment

/-- The comments that a node ends with. -/
def closing (node : Node) : List Node := node.children.rtakeWhile isComment

/-- The nodes of a statement fall into the comments it begins with, its first token and the rest. -/
theorem split_opening {node first : Node} (head : (tokens node).head? = some first) :
    isComment first = false ∧ ∃ rest, node.children = opening node ++ first :: rest := by
  rw [tokens, List.head?_filter] at head
  -- The first token is found by a search that passes over comments.
  obtain ⟨token, front, rest, split, comments⟩ := List.find?_eq_some_iff_append.mp head
  have token : isComment first = false := by simpa using token
  refine ⟨token, rest, ?_⟩
  -- What stands in front of the first token are comments.
  rw [opening, split, takeWhile_append_stop token, List.takeWhile_eq_self_iff.mpr]
  exact fun child mem => by simpa using comments child mem

/-- The nodes of a statement fall into what stands in front of its last token, that token, and the
comments it ends with. -/
theorem split_closing {node last : Node} (final : (tokens node).getLast? = some last) :
    isComment last = false ∧ ∃ front, node.children = front ++ last :: closing node := by
  rw [tokens, List.getLast?_eq_head?_reverse, ← List.filter_reverse, List.head?_filter] at final
  -- Read from behind, the last token is the first one.
  obtain ⟨token, back, rest, split, comments⟩ := List.find?_eq_some_iff_append.mp final
  have token : isComment last = false := by simpa using token
  have run : closing node = back.reverse := by
    rw [closing, List.rtakeWhile, split, takeWhile_append_stop token,
      List.takeWhile_eq_self_iff.mpr]
    exact fun child mem => by simpa using comments child mem
  refine ⟨token, rest.reverse, ?_⟩
  rw [run, ← List.reverse_inj, split]
  simp

section Inner

variable {node first last : Node} (laid : Laid text low high node.children)
include laid

/-- The comments in front of the first token are those that the statement begins with. -/
theorem innerLeading_eq (head : (tokens node).head? = some first) :
    innerLeading first node.children = opening node := by
  obtain ⟨token, rest, split⟩ := split_opening head
  have first_valid := (laid.bounded first (by rw [split]; simp)).2.1
  have around := (split ▸ laid).around
  rw [innerLeading, split, List.filter_append, List.filter_cons_of_neg (by simp [token])]
  -- All comments of the run are kept, and none from behind the first token.
  rw [List.filter_eq_self.mpr, List.filter_eq_nil_iff.mpr, List.append_nil]
  · intro child mem
    have later := around.2 child mem
    have filled := laid.filled child (by rw [split]; simp [mem])
    simp only [Bool.and_eq_true, decide_eq_true_eq, not_and]
    intro comment
    have some_char := filled comment
    omega
  · intro child mem
    have earlier := around.1 child mem
    simp [List.mem_takeWhile_imp mem, earlier]

/-- The comments behind the last token are those that the statement ends with. -/
theorem innerTrailing_eq (head : (tokens node).head? = some first)
    (final : (tokens node).getLast? = some last) :
    innerTrailing first last node.children = closing node := by
  obtain ⟨token, front, split⟩ := split_closing final
  obtain ⟨-, -, ends⟩ := tokens_ends laid head final
  have last_valid := (laid.bounded last (by rw [split]; simp)).2.1
  have around := (split ▸ laid).around
  rw [innerTrailing, split, List.filter_append, List.filter_cons_of_neg (by simp [token])]
  -- No comment from in front of the last token is kept, and all of the run are.
  rw [List.filter_eq_nil_iff.mpr, List.filter_eq_self.mpr, List.nil_append]
  · intro child mem
    have later := around.2 child mem
    have comment := List.mem_rtakeWhile_imp mem
    have filled := laid.filled child (by rw [split]; simp [mem]) comment
    simp only [comment, Bool.true_and, Bool.and_eq_true, Bool.not_eq_true', decide_eq_false_iff_not,
      decide_eq_true_eq]
    omega
  · intro child mem
    have earlier := around.1 child mem
    have filled := laid.filled child (by rw [split]; simp [mem])
    simp only [Bool.and_eq_true, decide_eq_true_eq, not_and]
    rintro ⟨comment, -⟩
    have some_char := filled comment
    omega

end Inner

/-- Comments in a row of nodes start one behind the other. -/
theorem Laid.starts_ascend {nodes run : List Node} (laid : Laid text low high nodes)
    (part : run.Sublist nodes) (comments : ∀ node ∈ run, isComment node = true) :
    run.Pairwise fun left right => left.start < right.start := by
  -- A comment is not empty, so it starts in front of where it ends, and the next one starts no
  -- earlier than that.
  refine (laid.ordered.sublist part).imp_of_mem ?_
  intro left right left_mem _ le
  have filled := laid.filled left (part.subset left_mem) (comments left left_mem)
  omega

/-- Nodes that start one behind the other are reported to do so, and no others are. -/
theorem ascending_map_iff {nodes : List Node} (whole : ∀ node ∈ nodes, node.Whole text) :
    Comment.Ascending (nodes.map (commentOf text)) ↔
      nodes.Pairwise fun left right => left.start < right.start := by
  unfold Comment.Ascending
  rw [List.pairwise_map]
  -- Character offsets follow the byte offsets, strictly at boundaries.
  refine ⟨fun ascending => ascending.imp ?_, fun ascending => ascending.imp_of_mem ?_⟩
  · intro left right less
    by_contra more
    have le := Utf8.charOffset_mono text (Nat.le_of_not_lt more)
    exact absurd (Int.ofNat_lt.mp less) (Nat.not_lt.mpr le)
  · intro left right left_mem right_mem less
    exact Int.ofNat_lt.mpr
      (Utf8.charOffset_lt (whole left left_mem).1 (whole right right_mem).1 less)

/-- What ascends both ways round is a single node at most. -/
theorem reverse_ascends_iff {nodes : List Node}
    (ascending : nodes.Pairwise fun left right => left.start < right.start) :
    (nodes.reverse.Pairwise fun left right => left.start < right.start) ↔ nodes.length ≤ 1 := by
  -- Two nodes are enough to show that both ways do not go together.
  cases nodes with
  | nil => simp
  | cons first rest =>
    cases rest with
    | nil => simp
    | cons second rest =>
      -- The first two would have to start in front of each other.
      have forward := (List.pairwise_cons.mp ascending).1 second (by simp)
      rw [List.pairwise_reverse]
      simp only [List.pairwise_cons, List.mem_cons, forall_eq_or_imp, List.length_cons]
      constructor
      · rintro ⟨⟨backward, -⟩, -⟩
        omega
      · intro short
        omega

/-- How a statement has the comments of its node and of the nodes beside it: those in front in the
order of the text, those behind in that order only if its node ends with one comment at most. -/
structure Sequenced (text : Text) (root node : Node) (statement : ImportStatement) : Prop where
  placed : ∃ before behind, root.children = before ++ node :: behind ∧
    statement.leading =
      (before.rtakeWhile isComment ++ opening node).map (commentOf text) ∧
    statement.trailing =
      ((closing node).reverse ++ behind.takeWhile isComment).map (commentOf text)
  leading : Comment.Ascending statement.leading
  trailing : Comment.Ascending statement.trailing ↔ (closing node).length ≤ 1

theorem WellFormed.whole {root : Node} (formed : WellFormed text root) : Whole text root :=
  ⟨formed.top.whole, fun node mem kind => (formed.inner node mem kind).whole⟩

section Sequences

variable {before behind : List Node} {node : Node}
  (laid : Laid text 0 (Utf8.length text) (before ++ node :: behind))
  (inner : Laid text node.start node.stop node.children)
include laid inner

/-- The comments in front of a statement and those it begins with start one behind the other. -/
theorem leading_ascends : (before.rtakeWhile isComment ++ opening node).Pairwise
    fun left right => left.start < right.start := by
  have front : (before.rtakeWhile isComment).Sublist before := (List.rtakeWhile_suffix _ _).sublist
  have runs := laid.starts_ascend (front.trans (List.sublist_append_left _ _))
    fun _ mem => List.mem_rtakeWhile_imp mem
  have opens := inner.starts_ascend (List.takeWhile_sublist _) fun _ mem => List.mem_takeWhile_imp mem
  refine List.pairwise_append.mpr ⟨runs, opens, ?_⟩
  intro left left_mem right right_mem
  -- The statement begins between the two.
  have filled := laid.filled left (List.mem_append_left _ (front.subset left_mem))
    (List.mem_rtakeWhile_imp left_mem)
  have outside := laid.around.1 left (front.subset left_mem)
  have inside := (inner.bounded right ((List.takeWhile_sublist _).subset right_mem)).1
  omega

/-- The comments that a statement ends with, from right to left, and those behind it start one behind
the other exactly if there is at most one of the former. -/
theorem trailing_ascends_iff : ((closing node).reverse ++ behind.takeWhile isComment).Pairwise
    (fun left right => left.start < right.start) ↔ (closing node).length ≤ 1 := by
  have back : (behind.takeWhile isComment).Sublist behind := List.takeWhile_sublist _
  have own : (closing node).Sublist node.children := (List.rtakeWhile_suffix _ _).sublist
  have runs := laid.starts_ascend
    (back.trans ((List.sublist_cons_self _ _).trans (List.sublist_append_right _ _)))
    fun _ mem => List.mem_takeWhile_imp mem
  have closes := inner.starts_ascend own fun _ mem => List.mem_rtakeWhile_imp mem
  rw [List.pairwise_append, reverse_ascends_iff closes]
  refine ⟨fun ⟨short, _, _⟩ => short, fun short => ⟨short, runs, ?_⟩⟩
  intro left left_mem right right_mem
  -- The statement ends between the two.
  have left_mem := List.mem_reverse.mp left_mem
  have filled := inner.filled left (own.subset left_mem) (List.mem_rtakeWhile_imp left_mem)
  have inside := (inner.bounded left (own.subset left_mem)).2.2
  have outside := laid.around.2 right (back.subset right_mem)
  omega

end Sequences

/-- What a node of a well-formed tree gives has its comments in this sequence. -/
theorem Gives.sequenced {root node : Node} {statement : ImportStatement}
    (formed : WellFormed text root) (given : Gives text root.children [] node statement) :
    Sequenced text root node statement := by
  obtain ⟨before, behind, split, found⟩ := given
  rw [List.append_nil] at found
  obtain ⟨kind, specifier, first, last, -, head, final, rfl⟩ := statement?_eq_some found
  have node_mem : node ∈ root.children := by rw [split]; simp
  have inner := formed.inner node node_mem kind
  have laid := formed.top
  have children_whole : ∀ child ∈ node.children, child.Whole text := inner.whole
  have siblings_whole : ∀ other ∈ root.children, other.Whole text := laid.whole
  rw [split] at laid
  have leading : (reported text before.reverse node first last behind specifier).leading =
      (before.rtakeWhile isComment ++ opening node).map (commentOf text) := by
    rw [reported, innerLeading_eq inner head]
    rfl
  have trailing : (reported text before.reverse node first last behind specifier).trailing =
      ((closing node).reverse ++ behind.takeWhile isComment).map (commentOf text) := by
    rw [reported, innerTrailing_eq inner head final]
  -- What is left is the order of the two lists, which the offsets of bytes decide.
  refine ⟨⟨before, behind, split, leading, trailing⟩, ?_, ?_⟩
  · rw [leading, ascending_map_iff]
    · exact leading_ascends laid inner
    · intro other mem
      rcases List.mem_append.mp mem with front | own
      · have mem := (List.rtakeWhile_suffix _ _).subset front
        exact siblings_whole other (by rw [split]; simp [mem])
      · exact children_whole other ((List.takeWhile_sublist _).subset own)
  · rw [trailing, ascending_map_iff]
    · exact trailing_ascends_iff laid inner
    · intro other mem
      rcases List.mem_append.mp mem with own | back
      · exact children_whole other ((List.rtakeWhile_suffix _ _).subset (List.mem_reverse.mp own))
      · have mem := (List.takeWhile_sublist _).subset back
        exact siblings_whole other (by rw [split]; simp [mem])

/-- The comments in front of each statement of a well-formed tree are in the order of the text. Those
behind it are so exactly if its node ends with at most one comment: more of them come from right to
left, in front of the comments beside the node. -/
theorem comments_sequenced {root : Node} (formed : WellFormed text root) :
    ∃ statements, imports text root = .ok statements ∧
      List.Forall₂ (Sequenced text root) (importNodes root) statements := by
  obtain ⟨statements, told, census⟩ := imports_census formed.whole
  exact ⟨statements, told, census.imp fun _ _ given => given.sequenced formed⟩

/-- A statement that ends with two comments and has another one behind it. -/
def pairText : Text := "import\"a\"/*p*//*q*/\n//r\n".toList

/-- The tree of that text. -/
def pairRoot : Node where
  kind := "program"
  start := 0
  stop := 24
  children :=
    [ { kind := "import_statement", start := 0, stop := 19, children :=
          [ { kind := "import", start := 0, stop := 6 },
            { kind := "string", start := 6, stop := 9, role := some "source" },
            { kind := "comment", start := 9, stop := 14 },
            { kind := "comment", start := 14, stop := 19 } ] },
      { kind := "comment", start := 20, stop := 23 } ]

/-- The statement of the pair has the comments of its node from right to left. -/
def pairStatement : ImportStatement where
  start := 0
  stop := 9
  startLine := 1
  stopLine := 1
  specifier := "a"
  leading := []
  trailing := [⟨14, 19, 1, 1⟩, ⟨9, 14, 1, 1⟩, ⟨20, 23, 2, 2⟩]

theorem comments_sequenced_pair : WellFormed pairText pairRoot ∧
    ∃ statements, imports pairText pairRoot = .ok statements ∧
      statements.map ImportStatement.trailing = [pairStatement.trailing] ∧
      List.Forall₂ (Sequenced pairText pairRoot) (importNodes pairRoot) statements := by
  have formed : WellFormed pairText pairRoot := by decide +kernel
  obtain ⟨statements, told, census⟩ := comments_sequenced formed
  refine ⟨formed, statements, told, ?_, census⟩
  -- The statements are computed apart, and are the ones that the theorem gives.
  have trailing : ((imports pairText pairRoot).toOption.map fun statements =>
      statements.map ImportStatement.trailing) = some [pairStatement.trailing] := by
    decide +kernel
  rw [told] at trailing
  exact Option.some.inj trailing

/-- The comments behind a statement of a well-formed tree can be out of order, and reading the text
itself gives that statement too. -/
theorem trailing_out_of_order : WellFormed pairText pairRoot ∧
    (imports pairText pairRoot).toOption = some [pairStatement] ∧
    (Source.imports "a.ts" pairText).toOption = some [pairStatement] ∧
    ¬Comment.Ascending pairStatement.trailing := by
  decide +kernel

end Tree

end ImportOrder
