import ImportOrder.Proofs.Tree.Neighbours
import ImportOrder.Proofs.Attachment.Pass
import Mathlib.Data.List.Basic

/-! The statements of a well-formed tree lie in the text one behind the other, each pair sharing no
more than the comments between the two. -/

namespace ImportOrder

namespace Tree

variable {text : Text}

/-- The first and the last token of a statement are nodes in it, and the one does not end before the
other starts. -/
theorem tokens_ends {low high : Nat} {node first last : Node}
    (laid : Laid text low high node.children) (head : (tokens node).head? = some first)
    (final : (tokens node).getLast? = some last) :
    first ∈ node.children ∧ last ∈ node.children ∧ first.start ≤ last.stop := by
  have first_mem : first ∈ node.children := (List.mem_filter.mp (List.mem_of_head? head)).1
  have last_mem : last ∈ node.children := (List.mem_filter.mp (List.mem_of_getLast? final)).1
  refine ⟨first_mem, last_mem, ?_⟩
  have first_valid := (laid.bounded first first_mem).2.1
  have last_valid := (laid.bounded last last_mem).2.1
  -- The tokens keep the order of the nodes they are taken from.
  have ordered : (tokens node).Pairwise fun left right => left.stop ≤ right.start :=
    laid.ordered.sublist List.filter_sublist
  cases row : tokens node with
  | nil =>
    rw [row] at head
    contradiction
  | cons token rest =>
    rw [row] at head final ordered
    obtain rfl : token = first := by simpa using head
    -- The last token is the first one, or stands behind it.
    rcases List.mem_cons.mp (List.mem_of_getLast? final) with rfl | later
    · exact last_valid
    · have behind := (List.pairwise_cons.mp ordered).1 last later
      omega

/-- A comment in front of a statement is one of the run of comments there, or stands inside the
statement in front of its first token. -/
theorem mem_leading {before behind : List Node} {node first last : Node} {specifier : String}
    {comment : Comment}
    (mem : comment ∈ (reported text before node first last behind specifier).leading) :
    ∃ source, commentOf text source = comment ∧ (source ∈ before.takeWhile isComment ∨
      source ∈ node.children ∧ source.stop ≤ first.start) := by
  simp only [reported, List.mem_map, List.mem_append, List.mem_reverse, innerLeading,
    List.mem_filter, Bool.and_eq_true, decide_eq_true_eq] at mem
  -- The run is reversed in the list, which does not matter for what is in it.
  obtain ⟨source, run | ⟨child, -, le⟩, same⟩ := mem
  · exact ⟨source, same, .inl run⟩
  · exact ⟨source, same, .inr ⟨child, le⟩⟩

/-- A comment behind a statement is one of the run of comments there, or stands inside the statement
behind its last token. -/
theorem mem_trailing {before behind : List Node} {node first last : Node} {specifier : String}
    {comment : Comment} :
    comment ∈ (reported text before node first last behind specifier).trailing ↔
      ∃ source, commentOf text source = comment ∧
        (source ∈ innerTrailing first last node.children ∨ source ∈ behind.takeWhile isComment) := by
  simp only [reported, List.mem_map, List.mem_append, List.mem_reverse]
  constructor
  · rintro ⟨source, mem, same⟩
    exact ⟨source, same, mem⟩
  · rintro ⟨source, same, mem⟩
    exact ⟨source, mem, same⟩

/-- A comment behind the last token is a node of the statement. -/
theorem mem_innerTrailing {first last source : Node} {children : List Node}
    (mem : source ∈ innerTrailing first last children) :
    source ∈ children ∧ last.stop ≤ source.start := by
  simp only [innerTrailing, List.mem_filter, Bool.and_eq_true, decide_eq_true_eq] at mem
  exact ⟨mem.1, mem.2.2⟩

section Placed

variable {before behind : List Node} {node : Node} {statement : ImportStatement}
  (laid : Laid text 0 (Utf8.length text) (before.reverse ++ node :: behind))
  (inner : node.kind = importKind → Laid text node.start node.stop node.children)
  (found : statement? text before node behind = .ok (some statement))
include laid inner found

/-- A statement with the comments in front of it may start where it starts itself or where one of
these comments does. -/
theorem statement_startEdge {offset : Int}
    (place : offset = statement.start ∨ ∃ comment ∈ statement.leading, offset = comment.start) :
    ∃ edge : Nat, offset = Utf8.charOffset text edge ∧ StartEdge before node edge := by
  obtain ⟨kind, specifier, first, last, -, head, final, rfl⟩ := statement?_eq_some found
  -- The edge is that of the first token or of a comment, so it is an edge of a node either way.
  rcases place with rfl | ⟨comment, mem, rfl⟩
  · obtain ⟨first_mem, -, -⟩ := tokens_ends (inner kind) head final
    have bounds := (inner kind).bounded first first_mem
    exact ⟨first.start, rfl, startEdge_inside laid bounds.1 (by omega)⟩
  · obtain ⟨source, rfl, run | ⟨child, le⟩⟩ := mem_leading mem
    · exact ⟨source.start, rfl, startEdge_comment laid run⟩
    · -- A comment inside the statement is as far from the neighbours as its first token.
      have bounds := (inner kind).bounded source child
      exact ⟨source.start, rfl, startEdge_inside laid bounds.1 (by omega)⟩

/-- A statement with the comments behind it may stop where it stops itself or where one of these
comments does. -/
theorem statement_stopEdge {offset : Int}
    (place : offset = statement.stop ∨ ∃ comment ∈ statement.trailing, offset = comment.stop) :
    ∃ edge : Nat, offset = Utf8.charOffset text edge ∧ StopEdge node behind edge := by
  obtain ⟨kind, specifier, first, last, -, head, final, rfl⟩ := statement?_eq_some found
  -- As in front: the last token, a comment in the node, or one of the run behind it.
  rcases place with rfl | ⟨comment, mem, rfl⟩
  · obtain ⟨-, last_mem, -⟩ := tokens_ends (inner kind) head final
    have bounds := (inner kind).bounded last last_mem
    exact ⟨last.stop, rfl, stopEdge_inside laid (by omega) bounds.2.2⟩
  · obtain ⟨source, rfl, child | run⟩ := mem_trailing.mp mem
    · -- A comment inside the statement is as far from the neighbours as its last token.
      have bounds := (inner kind).bounded source (mem_innerTrailing child).1
      exact ⟨source.stop, rfl, stopEdge_inside laid (by omega) bounds.2.2⟩
    · exact ⟨source.stop, rfl, stopEdge_comment laid run⟩

/-- A statement lies in the text together with the comments beside it. -/
theorem statement_contained : Attachment.Contained text.length statement := by
  obtain ⟨kind, specifier, first, last, -, head, final, rfl⟩ := statement?_eq_some found
  obtain ⟨first_mem, last_mem, le⟩ := tokens_ends (inner kind) head final
  have inside := (laid.bounded node (by simp)).2.2
  have last_bounds := (inner kind).bounded last last_mem
  -- Character offsets follow the byte offsets and stay inside the text.
  refine ⟨Int.natCast_nonneg _, ?_, ?_, ?_, ?_⟩
  · exact Int.ofNat_le.mpr (Utf8.charOffset_mono text le)
  · exact Int.ofNat_le.mpr (Utf8.charOffset_le text (by omega))
  · intro comment mem
    obtain ⟨source, rfl, -⟩ := mem_leading mem
    exact Int.natCast_nonneg _
  · intro comment mem
    obtain ⟨source, rfl, child | run⟩ := mem_trailing.mp mem
    · have bounds := (inner kind).bounded source (mem_innerTrailing child).1
      exact Int.ofNat_le.mpr (Utf8.charOffset_le text (by omega))
    · have mem := (List.takeWhile_sublist _).subset run
      have bounds := laid.bounded source
        (List.mem_append_right _ (List.mem_cons_of_mem _ mem))
      exact Int.ofNat_le.mpr (Utf8.charOffset_le text bounds.2.2)

end Placed

/-- A node among others that stands no further than a member of the run they begin with is in the run
too. -/
theorem run_before {low high : Nat} {nodes : List Node} (laid : Laid text low high nodes)
    {member other : Node} (run : member ∈ nodes.takeWhile isComment) (present : other ∈ nodes) :
    member.stop ≤ other.start ∨
      other ∈ nodes.takeWhile isComment ∧ other.start ≤ member.start := by
  have mem := (List.takeWhile_sublist _).subset run
  have valid := (laid.bounded other present).2.1
  have split := List.takeWhile_append_dropWhile (p := isComment) (l := nodes)
  -- A node is in the run or in what the run leaves.
  have parts : other ∈ nodes.takeWhile isComment ∨ other ∈ nodes.dropWhile isComment := by
    rw [← List.mem_append, split]
    exact present
  -- Within the run the order of the nodes decides.
  rcases parts with inside | behind
  · rcases laid.apart mem present with rfl | le | le
    · exact .inr ⟨inside, Nat.le_refl _⟩
    · exact .inl le
    · exact .inr ⟨inside, by omega⟩
  · -- What the run leaves stands behind every member of it.
    have ordered := laid.ordered
    rw [← split] at ordered
    exact .inl ((List.pairwise_append.mp ordered).2.2 member run other behind)

/-- Nodes side by side are still so when others in front or behind are left out. -/
theorem Laid.sublist {low high : Nat} {some_nodes nodes : List Node}
    (laid : Laid text low high nodes) (part : some_nodes.Sublist nodes) :
    Laid text low high some_nodes :=
  ⟨laid.ordered.sublist part, fun node mem => laid.bounded node (part.subset mem),
    fun node mem => laid.whole node (part.subset mem),
    fun node mem => laid.filled node (part.subset mem)⟩

/-- Two nodes and what stands between them, in the order of the text. -/
theorem Laid.between {low high : Nat} {before between behind : List Node} {left right : Node}
    (laid : Laid text low high (before ++ left :: (between ++ right :: behind))) :
    left.stop ≤ right.start ∧ (∀ node ∈ between, left.stop ≤ node.start ∧ node.stop ≤ right.start) ∧
      Laid text low high between := by
  have after_left := laid.around.2
  -- The same nodes, seen from the one on the right.
  have rows : before ++ left :: (between ++ right :: behind) =
      (before ++ left :: between) ++ right :: behind := by simp
  have before_right := (rows ▸ laid).around.1
  refine ⟨after_left right (by simp), ?_, laid.sublist ?_⟩
  · intro node mem
    exact ⟨after_left node (by simp [mem]), before_right node (by simp [mem])⟩
  · exact ((List.sublist_append_left _ _).trans (List.sublist_cons_self _ _)).trans
      (List.sublist_append_right _ _)

/-- The comments behind a statement, where an import statement comes next, stand in its own node or
are the run of comments between the two. -/
theorem trailing_between {before between behind : List Node} {left right first last : Node}
    {specifier : String} {comment : Comment} (import_right : right.kind = importKind)
    (inner : Laid text left.start left.stop left.children)
    (mem : comment ∈ (reported text before left first last (between ++ right :: behind)
      specifier).trailing) :
    ∃ source, commentOf text source = comment ∧
      (source.stop ≤ left.stop ∨ source ∈ between.takeWhile isComment) := by
  obtain ⟨source, same, child | run⟩ := mem_trailing.mp mem
  · exact ⟨source, same, .inl (inner.bounded source (mem_innerTrailing child).1).2.2⟩
  · -- The run ends at the next import statement, which is no comment.
    rw [takeWhile_append_stop (isComment_import import_right)] at run
    exact ⟨source, same, .inr run⟩

/-- The comments in front of a statement, where an import statement comes before, stand in its own
node or between the two. -/
theorem leading_between {before between behind : List Node} {left right first last : Node}
    {specifier : String} {comment : Comment} (import_left : left.kind = importKind)
    (inner : Laid text right.start right.stop right.children)
    (mem : comment ∈ (reported text (between.reverse ++ left :: before) right first last behind
      specifier).leading) :
    ∃ source, commentOf text source = comment ∧
      (right.start ≤ source.start ∨ source ∈ between) := by
  obtain ⟨source, same, run | ⟨child, -⟩⟩ := mem_leading mem
  · -- The run ends at the import statement in front, which is no comment.
    rw [takeWhile_append_stop (isComment_import import_left)] at run
    exact ⟨source, same, .inr (List.mem_reverse.mp ((List.takeWhile_sublist _).subset run))⟩
  · exact ⟨source, same, .inl (inner.bounded source child).1⟩

/-- Of two statements of a tree the one on the right follows the one on the left. -/
theorem statement_follows {before between behind : List Node} {left right : Node}
    {earlier later : ImportStatement}
    (laid : Laid text 0 (Utf8.length text) (before.reverse ++ left :: (between ++ right :: behind)))
    (inner_left : left.kind = importKind → Laid text left.start left.stop left.children)
    (inner_right : right.kind = importKind → Laid text right.start right.stop right.children)
    (found_left : statement? text before left (between ++ right :: behind) = .ok (some earlier))
    (found_right : statement? text (between.reverse ++ left :: before) right behind =
      .ok (some later)) :
    Attachment.Follows earlier later := by
  obtain ⟨left_kind, name, first, last, -, left_head, left_final, rfl⟩ :=
    statement?_eq_some found_left
  obtain ⟨right_kind, name', first', last', -, right_head, right_final, rfl⟩ :=
    statement?_eq_some found_right
  have left_laid := inner_left left_kind
  have right_laid := inner_right right_kind
  obtain ⟨-, last_mem, -⟩ := tokens_ends left_laid left_head left_final
  obtain ⟨first_mem, -, -⟩ := tokens_ends right_laid right_head right_final
  have last_le := (left_laid.bounded last last_mem).2.2
  have le_first := (right_laid.bounded first' first_mem).1
  -- All that follows is read off the order of the nodes between the two.
  obtain ⟨across, gap, middle⟩ := laid.between
  -- The four parts: the statements, the comments in front of the later one, those behind the
  -- earlier one, and both together.
  refine ⟨?_, ?_, ?_, ?_⟩
  · exact Int.ofNat_le.mpr (Utf8.charOffset_mono text (by omega))
  · intro comment mem
    obtain ⟨source, rfl, own | shared⟩ := leading_between left_kind right_laid mem
    · exact Int.ofNat_le.mpr (Utf8.charOffset_mono text (by omega))
    · have place := gap source shared
      exact Int.ofNat_le.mpr (Utf8.charOffset_mono text (by omega))
  · intro comment mem
    obtain ⟨source, rfl, own | run⟩ := trailing_between right_kind left_laid mem
    · exact Int.ofNat_le.mpr (Utf8.charOffset_mono text (by omega))
    · have place := gap source ((List.takeWhile_sublist _).subset run)
      exact Int.ofNat_le.mpr (Utf8.charOffset_mono text (by omega))
  · intro comment mem other other_mem
    obtain ⟨source, rfl, own | run⟩ := trailing_between right_kind left_laid mem <;>
      obtain ⟨next, rfl, next_own | shared⟩ := leading_between left_kind right_laid other_mem
    · exact .inl (Int.ofNat_le.mpr (Utf8.charOffset_mono text (by omega)))
    · have place := gap next shared
      exact .inl (Int.ofNat_le.mpr (Utf8.charOffset_mono text (by omega)))
    · have place := gap source ((List.takeWhile_sublist _).subset run)
      exact .inl (Int.ofNat_le.mpr (Utf8.charOffset_mono text (by omega)))
    · rcases run_before middle run shared with le | ⟨seen, le⟩
      · exact .inl (Int.ofNat_le.mpr (Utf8.charOffset_mono text le))
      · -- The left statement sees this comment too, no further down than the one it is compared with.
        have place := gap next shared
        have row_last := Utf8.row_mono text (show last.stop ≤ next.start by omega)
        have row_next := Utf8.row_mono text le
        rw [← takeWhile_append_stop (isComment_import right_kind) between behind] at seen
        refine .inr ⟨mem_trailing.mpr ⟨next, rfl, .inr seen⟩, ?_, ?_⟩
        · simp only [reported, commentOf]
          omega
        · simp only [commentOf]
          omega

/-- A statement of some nodes is that of one of them, between its neighbours. -/
theorem mem_importsFrom {before nodes : List Node} {statements : List ImportStatement}
    (found : importsFrom text before nodes = .ok statements) {statement : ImportStatement}
    (mem : statement ∈ statements) :
    ∃ front node behind, nodes = front ++ node :: behind ∧
      statement? text (front.reverse ++ before) node behind = .ok (some statement) := by
  induction nodes generalizing before statements with
  | nil =>
    obtain rfl : [] = statements := Except.ok.inj found
    contradiction
  | cons node rest ih =>
    unfold importsFrom at found
    cases own : statement? text before node rest with
    | error fault => simp [own, Bind.bind, Except.bind] at found
    | ok result =>
      cases others : importsFrom text (node :: before) rest with
      | error fault => simp [own, others, Bind.bind, Except.bind] at found
      | ok tail =>
        simp only [own, others, Bind.bind, Except.bind, pure, Except.pure, Except.ok.injEq] at found
        -- A statement of the nodes behind has this node in front of it.
        have later : statement ∈ tail → ∃ front next behind, node :: rest = front ++ next :: behind ∧
            statement? text (front.reverse ++ before) next behind = .ok (some statement) := by
          intro mem_tail
          obtain ⟨front, next, behind, rfl, at_next⟩ := ih others mem_tail
          exact ⟨node :: front, next, behind, rfl, by simpa using at_next⟩
        cases result with
        | none =>
          rw [← found] at mem
          exact later mem
        | some head =>
          rw [← found] at mem
          rcases List.mem_cons.mp mem with rfl | mem_tail
          · exact ⟨[], node, rest, rfl, own⟩
          · exact later mem_tail

/-- The statements of nodes that lie in the text can be told, and each follows the ones in front of
it. -/
theorem importsFrom_eq_ok {before nodes : List Node}
    (laid : Laid text 0 (Utf8.length text) (before.reverse ++ nodes))
    (inner : ∀ node ∈ nodes, node.kind = importKind →
      Laid text node.start node.stop node.children) :
    ∃ statements, importsFrom text before nodes = .ok statements ∧
      statements.Pairwise Attachment.Follows := by
  -- The induction is on the nodes. Those in front are kept, since a node is read together with
  -- them.
  induction nodes generalizing before with
  | nil => exact ⟨[], rfl, List.Pairwise.nil⟩
  | cons node rest ih =>
    -- Each node is read with all the others in place, those in front reversed.
    obtain ⟨result, own⟩ := statement?_ok before rest
      fun kind => (inner node (List.mem_cons_self ..) kind).whole
    have moved : (node :: before).reverse ++ rest = before.reverse ++ node :: rest := by simp
    obtain ⟨others, found, ordered⟩ := ih (moved ▸ laid)
      fun next mem => inner next (List.mem_cons_of_mem _ mem)
    unfold importsFrom
    simp only [own, found, Bind.bind, Except.bind]
    cases result with
    | none => exact ⟨others, rfl, ordered⟩
    | some statement =>
      refine ⟨statement :: others, rfl, List.pairwise_cons.mpr ⟨?_, ordered⟩⟩
      intro later mem
      -- Every later statement is that of a node further to the right.
      obtain ⟨front, next, behind, rfl, at_next⟩ := mem_importsFrom found mem
      exact statement_follows laid (inner node (List.mem_cons_self ..))
        (inner next (by simp)) own at_next

/-- The statements of a well-formed tree can be told, and each follows the ones in front of it. -/
theorem imports_eq_ok {root : Node} (formed : WellFormed text root) :
    ∃ statements, imports text root = .ok statements ∧
      statements.Pairwise Attachment.Follows :=
  importsFrom_eq_ok formed.top formed.inner

/-- Every statement of a well-formed tree lies in the text with the comments beside it. -/
theorem imports_contained {root : Node} (formed : WellFormed text root)
    {statements : List ImportStatement} (told : imports text root = .ok statements) :
    ∀ statement ∈ statements, Attachment.Contained text.length statement := by
  intro statement mem
  obtain ⟨front, node, behind, split, found⟩ := mem_importsFrom told mem
  -- In front of the first node of the tree there is nothing.
  rw [List.append_nil] at found
  refine statement_contained ?_ (formed.inner node (by rw [split]; simp)) found
  rw [List.reverse_reverse, ← split]
  exact formed.top

end Tree

end ImportOrder
