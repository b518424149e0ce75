import ImportOrder.Tree.Imports
import ImportOrder.Proofs.Text.Boundary
import Mathlib.Data.List.Basic

/-! Trees that lie in their text as a parser leaves them, and the statements read off such trees. -/

namespace ImportOrder

/-- A node that cuts no character. -/
def Node.Whole (text : Text) (node : Node) : Prop :=
  Utf8.Boundary text node.start ∧ Utf8.Boundary text node.stop

namespace Tree

/-- Nodes side by side between two byte offsets: one behind the other, cutting no character, and
with something in every comment. -/
structure Laid (text : Text) (low high : Nat) (nodes : List Node) : Prop where
  -- The end of a node may be the start of the next one.
  ordered : nodes.Pairwise fun left right => left.stop ≤ right.start
  bounded : ∀ node ∈ nodes, low ≤ node.start ∧ node.start ≤ node.stop ∧ node.stop ≤ high
  whole : ∀ node ∈ nodes, Utf8.Boundary text node.start ∧ Utf8.Boundary text node.stop
  filled : ∀ node ∈ nodes, isComment node = true → node.start < node.stop

instance (text : Text) (low high : Nat) (nodes : List Node) :
    Decidable (Laid text low high nodes) :=
  decidable_of_iff
    ((nodes.Pairwise fun left right => left.stop ≤ right.start) ∧
      (∀ node ∈ nodes, low ≤ node.start ∧ node.start ≤ node.stop ∧ node.stop ≤ high) ∧
      (∀ node ∈ nodes, Utf8.Boundary text node.start ∧ Utf8.Boundary text node.stop) ∧
      ∀ node ∈ nodes, isComment node = true → node.start < node.stop)
    ⟨fun ⟨ordered, bounded, whole, filled⟩ => ⟨ordered, bounded, whole, filled⟩,
      fun laid => ⟨laid.ordered, laid.bounded, laid.whole, laid.filled⟩⟩

/-- A tree over a text: its top nodes lie in the text, and the nodes of each import statement lie in
that statement. -/
structure WellFormed (text : Text) (root : Node) : Prop where
  top : Laid text 0 (Utf8.length text) root.children
  -- Nothing is asked of what is in other nodes, since it is not read.
  inner : ∀ node ∈ root.children, node.kind = importKind →
    Laid text node.start node.stop node.children

instance (text : Text) (root : Node) : Decidable (WellFormed text root) :=
  decidable_of_iff
    (Laid text 0 (Utf8.length text) root.children ∧
      ∀ node ∈ root.children, node.kind = importKind →
        Laid text node.start node.stop node.children)
    ⟨fun ⟨top, inner⟩ => ⟨top, inner⟩, fun formed => ⟨formed.top, formed.inner⟩⟩

variable {text : Text} {low high : Nat}

/-- Two nodes side by side are one node, or one of them stands behind the other. -/
theorem Laid.apart {nodes : List Node} (laid : Laid text low high nodes) {a b : Node}
    (a_mem : a ∈ nodes) (b_mem : b ∈ nodes) : a = b ∨ a.stop ≤ b.start ∨ b.stop ≤ a.start := by
  -- The comparison is the same both ways round, so the order of the list does not matter.
  have compared : nodes.Pairwise fun a b => a = b ∨ a.stop ≤ b.start ∨ b.stop ≤ a.start :=
    laid.ordered.imp fun le => .inr (.inl le)
  have flipped : nodes.Pairwise (flip fun a b => a = b ∨ a.stop ≤ b.start ∨ b.stop ≤ a.start) :=
    laid.ordered.imp fun le => .inr (.inr le)
  exact compared.forall_of_forall_of_flip (fun _ _ => .inl rfl) flipped a_mem b_mem

/-- What stands in front of a node ends before it, and what stands behind it starts after it. -/
theorem Laid.around {before behind : List Node} {node : Node}
    (laid : Laid text low high (before ++ node :: behind)) :
    (∀ left ∈ before, left.stop ≤ node.start) ∧ ∀ right ∈ behind, node.stop ≤ right.start := by
  -- The node compares with those in front by the order across, and with those behind by its own.
  obtain ⟨-, tail, across⟩ := List.pairwise_append.mp laid.ordered
  exact ⟨fun left mem => across left mem node (List.mem_cons_self ..),
    (List.pairwise_cons.mp tail).1⟩

/-- A comment is no import statement. -/
theorem isComment_import {node : Node} (kind : node.kind = importKind) : isComment node = false := by
  rw [isComment, kind]
  decide

/-- The text of a node can be read where the node cuts no character. -/
theorem nodeText_ok {node : Node} (whole : node.Whole text) :
    ∃ found, nodeText text node = .ok found := by
  -- The bytes between two boundaries are those of whole characters.
  unfold nodeText
  rw [Utf8.bytes_between whole.1 whole.2, Utf8.decode_encode]
  exact ⟨_, rfl⟩

/-- The module of a statement can be read where its nodes cut no character. -/
theorem specifier?_ok {node : Node} (whole : ∀ child ∈ node.children, child.Whole text) :
    ∃ found, specifier? text node = .ok found ∧
      found.isSome = (node.child? sourceRole).isSome := by
  unfold specifier?
  -- The node of the module, if there is one, is a child of the statement.
  cases role : node.child? sourceRole with
  | none => exact ⟨none, rfl, rfl⟩
  | some source =>
    have mem : source ∈ node.children := List.mem_of_find?_eq_some role
    obtain ⟨literal, read⟩ := nodeText_ok (whole source mem)
    exact ⟨_, by simp only [read]; rfl, rfl⟩

/-- The statement of a node from its first to its last token, with the comments beside it. -/
def reported (text : Text) (before : List Node) (node first last : Node) (behind : List Node)
    (specifier : String) : ImportStatement :=
  { start := Utf8.charOffset text first.start
    stop := Utf8.charOffset text last.stop
    startLine := (Utf8.pointOf text first.start).1 + 1
    stopLine := (Utf8.pointOf text last.stop).1 + 1
    specifier
    leading := ((before.takeWhile isComment).reverse ++
      innerLeading first node.children).map (commentOf text)
    trailing := ((innerTrailing first last node.children).reverse ++
      behind.takeWhile isComment).map (commentOf text) }

/-- The tokens of a statement: the nodes in it that are no comments. -/
def tokens (node : Node) : List Node := node.children.filter fun child => !isComment child

/-- A statement is read off an import node with a module and a token, from its first token to its
last. -/
theorem statement?_eq_some {before behind : List Node} {node : Node} {statement : ImportStatement}
    (found : statement? text before node behind = .ok (some statement)) :
    node.kind = importKind ∧ ∃ specifier first last,
      specifier? text node = .ok (some specifier) ∧ (tokens node).head? = some first ∧
      (tokens node).getLast? = some last ∧
      statement = reported text before node first last behind specifier := by
  unfold statement? at found
  -- Each way out of the reading but the last gives no statement.
  by_cases kind : node.kind = importKind
  · refine ⟨kind, ?_⟩
    simp only [kind, bne_self_eq_false, Bool.false_eq_true, if_false] at found
    cases module : specifier? text node with
    | error fault => simp [module, Bind.bind, Except.bind] at found
    | ok specifier =>
      cases specifier with
      | none => simp [module, Bind.bind, Except.bind, pure, Except.pure] at found
      | some specifier =>
        simp only [module, Bind.bind, Except.bind] at found
        -- A node without tokens is passed over, so there is a first token and a last one.
        cases head : (tokens node).head? with
        | none =>
          simp only [tokens] at head
          simp [head, pure, Except.pure] at found
        | some first =>
          cases last : (tokens node).getLast? with
          | none =>
            simp only [tokens] at last
            simp [last, pure, Except.pure] at found
          | some final =>
            refine ⟨specifier, first, final, rfl, rfl, rfl, ?_⟩
            simp only [tokens] at head last
            simp only [head, last, pure, Except.pure, Except.ok.injEq, Option.some.injEq] at found
            exact found.symm
  · simp [kind, pure, Except.pure, bne] at found

/-- Whether a node is a statement can always be told where its nodes cut no character. -/
theorem statement?_ok (before behind : List Node) {node : Node}
    (whole : node.kind = importKind → ∀ child ∈ node.children, child.Whole text) :
    ∃ found, statement? text before node behind = .ok found := by
  unfold statement?
  -- Only the module of the statement has to be decoded, and that succeeds.
  by_cases kind : node.kind = importKind
  · obtain ⟨specifier, read, -⟩ := specifier?_ok (whole kind)
    simp only [kind, bne_self_eq_false, Bool.false_eq_true, if_false, read]
    cases specifier with
    | none => exact ⟨none, rfl⟩
    | some specifier =>
      simp only [Bind.bind, Except.bind]
      split <;> exact ⟨_, rfl⟩
  · exact ⟨none, by simp [kind, pure, Except.pure, bne]⟩

end Tree

end ImportOrder
