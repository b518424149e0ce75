import ImportOrder.Proofs.Tree.Census
import Mathlib.Data.List.Pairwise

/-! Two statements with nothing but comments between them see the same comments, the first behind it
and the second in front of it. -/

namespace ImportOrder

namespace Tree

/-- Nodes side by side between two byte offsets: one behind the other and cutting no character, where
a comment may be empty. -/
structure Ranged (text : Text) (low high : Nat) (nodes : List Node) : Prop where
  ordered : nodes.Pairwise fun left right => left.stop ≤ right.start
  -- A node may be empty, but it does not end in front of its start.
  bounded : ∀ node ∈ nodes, low ≤ node.start ∧ node.start ≤ node.stop ∧ node.stop ≤ high
  whole : ∀ node ∈ nodes, Utf8.Boundary text node.start ∧ Utf8.Boundary text node.stop

instance (text : Text) (low high : Nat) (nodes : List Node) :
    Decidable (Ranged text low high nodes) :=
  decidable_of_iff
    ((nodes.Pairwise fun left right => left.stop ≤ right.start) ∧
      (∀ node ∈ nodes, low ≤ node.start ∧ node.start ≤ node.stop ∧ node.stop ≤ high) ∧
      ∀ node ∈ nodes, Utf8.Boundary text node.start ∧ Utf8.Boundary text node.stop)
    ⟨fun ⟨ordered, bounded, whole⟩ => ⟨ordered, bounded, whole⟩,
      fun ranged => ⟨ranged.ordered, ranged.bounded, ranged.whole⟩⟩

/-- A tree whose top nodes lie in the text, and the nodes of each import statement in that
statement. -/
structure Regular (text : Text) (root : Node) : Prop where
  top : Ranged text 0 (Utf8.length text) root.children
  inner : ∀ node ∈ root.children, node.kind = importKind →
    Ranged text node.start node.stop node.children

instance (text : Text) (root : Node) : Decidable (Regular text root) :=
  decidable_of_iff
    (Ranged text 0 (Utf8.length text) root.children ∧
      ∀ node ∈ root.children, node.kind = importKind →
        Ranged text node.start node.stop node.children)
    ⟨fun ⟨top, inner⟩ => ⟨top, inner⟩, fun regular => ⟨regular.top, regular.inner⟩⟩

variable {text : Text}

theorem Regular.whole {root : Node} (regular : Regular text root) : Whole text root :=
  ⟨regular.top.whole, fun node mem kind => (regular.inner node mem kind).whole⟩

/-- A statement that runs from the first to the last token of its node and has the module that the
node names. -/
structure Spans (text : Text) (node : Node) (statement : ImportStatement) : Prop where
  ends : ∃ first last, (tokens node).head? = some first ∧ (tokens node).getLast? = some last ∧
    statement.start = Utf8.charOffset text first.start ∧
    statement.stop = Utf8.charOffset text last.stop ∧
    statement.startLine = (Utf8.pointOf text first.start).1 + 1 ∧
    statement.stopLine = (Utf8.pointOf text last.stop).1 + 1
  named : specifier? text node = .ok (some statement.specifier)

/-- What a node gives spans it, whatever stands beside it. -/
theorem spans_of_statement? {before behind : List Node} {node : Node} {statement : ImportStatement}
    (found : statement? text before node behind = .ok (some statement)) :
    Spans text node statement := by
  obtain ⟨-, specifier, first, last, read, head, final, rfl⟩ := statement?_eq_some found
  exact ⟨⟨first, last, head, final, rfl, rfl, rfl, rfl⟩, read⟩

/-- A statement does not reach beyond its node. -/
theorem Spans.bounds {node : Node} {statement : ImportStatement} (spans : Spans text node statement)
    (inner : Ranged text node.start node.stop node.children) :
    (Utf8.charOffset text node.start : Int) ≤ statement.start ∧
      statement.stop ≤ Utf8.charOffset text node.stop := by
  obtain ⟨first, last, head, final, start, stop, -, -⟩ := spans.ends
  -- The tokens are children of the node, which lie between its ends.
  have first_mem : first ∈ node.children := (List.mem_filter.mp (List.mem_of_head? head)).1
  have last_mem : last ∈ node.children := (List.mem_filter.mp (List.mem_of_getLast? final)).1
  -- Offsets of characters follow those of bytes in their order.
  rw [start, stop]
  exact ⟨Int.ofNat_le.mpr (Utf8.charOffset_mono text (inner.bounded first first_mem).1),
    Int.ofNat_le.mpr (Utf8.charOffset_mono text (inner.bounded last last_mem).2.2)⟩

/-- The statements of nodes that stand one behind the other do so too. -/
theorem statements_ordered {root : Node} {statements : List ImportStatement}
    (regular : Regular text root) (census : List.Forall₂ (Spans text) (importNodes root) statements) :
    statements.Pairwise fun left right => left.stop ≤ right.start := by
  -- Leaving out nodes keeps the others in their order.
  have ordered : (importNodes root).Pairwise fun left right => left.stop ≤ right.start :=
    regular.top.ordered.sublist List.filter_sublist
  have inner : ∀ node ∈ importNodes root, Ranged text node.start node.stop node.children := by
    intro node mem
    obtain ⟨top, told⟩ := List.mem_filter.mp mem
    exact regular.inner node top (isImport_iff.mp told).1
  have size := census.length_eq
  rw [List.pairwise_iff_get] at ordered ⊢
  intro i j less
  -- The statements stand at the places of their nodes.
  have left := census.get (i := i) (by omega) i.isLt
  have right := census.get (i := j) (by omega) j.isLt
  have before := ordered ⟨i, by omega⟩ ⟨j, by omega⟩ less
  have left_stop := (left.bounds (inner _ (List.get_mem _ _))).2
  have right_start := (right.bounds (inner _ (List.get_mem _ _))).1
  have middle := Int.ofNat_le.mpr (Utf8.charOffset_mono text before)
  exact Int.le_trans left_stop (Int.le_trans middle right_start)

/-- Two statements share the comments between their nodes: apart from comments in their own nodes,
these are all that the first has behind it and all that the second has in front of it. -/
structure Share (text : Text) (left : Node) (between : List Node) (right : Node)
    (first second : ImportStatement) : Prop where
  -- The comments of its own node come first, since they lie in front of those behind the node.
  trailing : ∃ own, (∀ node ∈ own, node ∈ left.children) ∧
    first.trailing = (own ++ between).map (commentOf text)
  leading : ∃ own, (∀ node ∈ own, node ∈ right.children) ∧
    second.leading = (between ++ own).map (commentOf text)

/-- Where only comments stand between two import nodes, their statements share them. -/
theorem share_of_statement? {before between behind : List Node} {left right : Node}
    {first second : ImportStatement} (comments : ∀ node ∈ between, isComment node = true)
    (found : statement? text before left (between ++ right :: behind) = .ok (some first))
    (found' : statement? text (between.reverse ++ left :: before) right behind = .ok (some second)) :
    Share text left between right first second := by
  obtain ⟨left_kind, name, token, last, -, -, -, rfl⟩ := statement?_eq_some found
  obtain ⟨right_kind, name', token', last', -, -, -, rfl⟩ := statement?_eq_some found'
  -- Each run of comments goes as far as the other statement, which is no comment.
  have forward : (between ++ right :: behind).takeWhile isComment = between := by
    rw [takeWhile_append_stop (isComment_import right_kind), List.takeWhile_eq_self_iff]
    exact comments
  have backward : (between.reverse ++ left :: before).takeWhile isComment = between.reverse := by
    rw [takeWhile_append_stop (isComment_import left_kind), List.takeWhile_eq_self_iff]
    exact fun node mem => comments node (List.mem_reverse.mp mem)
  refine ⟨⟨(innerTrailing token last left.children).reverse, ?_, ?_⟩,
    ⟨innerLeading token' right.children, ?_, ?_⟩⟩
  · exact fun node mem => (mem_innerTrailing (List.mem_reverse.mp mem)).1
  · rw [reported, forward]
  · exact fun node mem => (List.mem_filter.mp mem).1
  · rw [reported, backward, List.reverse_reverse]

/-- Neighbouring statements see the same comments. A tree gives one statement for each import node
with a module and a token, in the order of the text and from its first token to its last; and where
only comments stand between two of these nodes, they are what the first statement has behind its own
node and what the second has in front of its own, all of them and in their order. -/
theorem comments_shared {root : Node} (regular : Regular text root) :
    ∃ statements, imports text root = .ok statements ∧
      List.Forall₂ (Spans text) (importNodes root) statements ∧
      (statements.Pairwise fun left right => left.stop ≤ right.start) ∧
      ∀ before left between right behind,
        root.children = before ++ left :: (between ++ right :: behind) →
        isImport left = true → isImport right = true → (∀ node ∈ between, isComment node = true) →
        ∃ earlier first second later, statements = earlier ++ first :: second :: later ∧
          earlier.length = (before.filter isImport).length ∧
          Spans text left first ∧ Spans text right second ∧
          Share text left between right first second := by
  have inner := regular.whole.inner
  obtain ⟨statements, told, census⟩ := imports_census regular.whole
  have spans : List.Forall₂ (Spans text) (importNodes root) statements :=
    census.imp fun _ _ ⟨_, _, _, found⟩ => spans_of_statement? found
  refine ⟨statements, told, spans, statements_ordered regular spans, ?_⟩
  intro before left between right behind split is_left is_right comments
  rw [imports, split] at told
  rw [split] at inner
  -- The statements fall apart at the first node, and those behind it at the second.
  obtain ⟨earlier, first, others, rfl, count, found, rest⟩ := importsFrom_split inner is_left told
  have inner_rest : ∀ next ∈ between ++ right :: behind, next.kind = importKind →
      ∀ child ∈ next.children, child.Whole text :=
    fun next mem => inner next (List.mem_append_right _ (List.mem_cons_of_mem _ mem))
  obtain ⟨gap, second, later, rfl, gap_count, found', -⟩ :=
    importsFrom_split inner_rest is_right rest
  -- Comments give no statements, so the two follow each other.
  have no_import : between.filter isImport = [] := by
    rw [List.filter_eq_nil_iff]
    exact fun node mem => by simp [isImport_comment (comments node mem)]
  rw [no_import, List.length_nil, List.length_eq_zero_iff] at gap_count
  subst gap_count
  exact ⟨earlier, first, second, later, rfl, count, spans_of_statement? found,
    spans_of_statement? found', share_of_statement? comments found found'⟩

/-- Two statements, the first with a comment in its own node and two more in front of the second. -/
def runText : Text := "import\"a\"/*p*/\n//q\n/*r*/import\"b\";".toList

def runLeft : Node where
  kind := "import_statement"
  start := 0
  stop := 14
  children :=
    [ { kind := "import", start := 0, stop := 6 },
      { kind := "string", start := 6, stop := 9, role := some "source" },
      { kind := "comment", start := 9, stop := 14 } ]

def runComments : List Node :=
  [{ kind := "comment", start := 15, stop := 18 }, { kind := "comment", start := 19, stop := 24 }]

def runRight : Node where
  kind := "import_statement"
  start := 24
  stop := 34
  children :=
    [ { kind := "import", start := 24, stop := 30 },
      { kind := "string", start := 30, stop := 33, role := some "source" },
      { kind := ";", start := 33, stop := 34 } ]

/-- The tree of that text. -/
def runRoot : Node where
  kind := "program"
  start := 0
  stop := 34
  children := runLeft :: (runComments ++ [runRight])

/-- The comment in the first node is the first statement's alone. -/
theorem comments_shared_run :
    Regular runText runRoot ∧ ∃ first second later,
      imports runText runRoot = .ok (first :: second :: later) ∧
      Share runText runLeft runComments runRight first second ∧
      first.trailing.map Comment.start = [9, 15, 19] ∧ second.leading.map Comment.start = [15, 19] := by
  have regular : Regular runText runRoot := by decide +kernel
  obtain ⟨statements, told, -, -, shared⟩ := comments_shared regular
  obtain ⟨earlier, first, second, later, rfl, count, -, -, share⟩ :=
    shared [] runLeft runComments runRight [] rfl (by decide +kernel) (by decide +kernel)
      (by decide +kernel)
  obtain rfl : earlier = [] := List.length_eq_zero_iff.mp count
  -- The comments are computed apart; the theorem says whose they are.
  have places : ((imports runText runRoot).toOption.map fun statements =>
      statements.map fun statement => (statement.leading.map Comment.start,
        statement.trailing.map Comment.start)) = some [([], [9, 15, 19]), ([15, 19], [])] := by
    decide +kernel
  rw [told] at places
  simp only [Except.toOption, Option.map_some, List.nil_append, List.map_cons, Option.some.injEq,
    List.cons.injEq, Prod.mk.injEq] at places
  obtain ⟨⟨-, behind⟩, ⟨front, -⟩, -⟩ := places
  exact ⟨regular, first, second, later, told, share, behind, front⟩

end Tree

end ImportOrder
