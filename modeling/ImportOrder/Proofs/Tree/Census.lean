import ImportOrder.Proofs.Tree.Statements
import Mathlib.Data.List.Forall2

/-! Which nodes of a tree give statements: each import node that names a module and has a token gives
one, in the order of the nodes. -/

namespace ImportOrder

namespace Tree

/-- Whether a node is an import statement with a module and a token. -/
def isImport (node : Node) : Bool :=
  node.kind == importKind && (node.child? sourceRole).isSome && !(tokens node).isEmpty

/-- The import statements among the top nodes of a tree. -/
def importNodes (root : Node) : List Node := root.children.filter isImport

/-- A tree of which neither a top node nor a node in an import statement cuts a character. -/
structure Whole (text : Text) (root : Node) : Prop where
  top : ∀ node ∈ root.children, node.Whole text
  -- Only what is read of the text has to be whole: the nodes of statements, not those below them.
  inner : ∀ node ∈ root.children, node.kind = importKind → ∀ child ∈ node.children, child.Whole text

instance (text : Text) (root : Node) : Decidable (Whole text root) :=
  decidable_of_iff
    ((∀ node ∈ root.children, Utf8.Boundary text node.start ∧ Utf8.Boundary text node.stop) ∧
      ∀ node ∈ root.children, node.kind = importKind → ∀ child ∈ node.children,
        Utf8.Boundary text child.start ∧ Utf8.Boundary text child.stop)
    ⟨fun ⟨top, inner⟩ => ⟨top, inner⟩, fun whole => ⟨whole.top, whole.inner⟩⟩

variable {text : Text}

theorem isImport_iff {node : Node} : isImport node = true ↔
    node.kind = importKind ∧ (node.child? sourceRole).isSome = true ∧ tokens node ≠ [] := by
  simp [isImport, and_assoc]

/-- A comment gives no statement. -/
theorem isImport_comment {node : Node} (comment : isComment node = true) : isImport node = false := by
  rw [Bool.eq_false_iff]
  intro told
  rw [isComment_import (isImport_iff.mp told).1] at comment
  contradiction

/-- An import node gives the statement from its first token to its last. -/
theorem statement?_import (before behind : List Node) {node : Node} (told : isImport node = true)
    (whole : ∀ child ∈ node.children, child.Whole text) :
    ∃ statement, statement? text before node behind = .ok (some statement) := by
  obtain ⟨kind, named, some_token⟩ := isImport_iff.mp told
  -- The module is read from the node, and reading it fails for no node that cuts no character.
  obtain ⟨found, read, same⟩ := specifier?_ok whole
  rw [named] at same
  obtain ⟨specifier, rfl⟩ := Option.isSome_iff_exists.mp same
  -- A list that is not empty has a first and a last member.
  have head := List.head?_eq_some_head some_token
  have final := List.getLast?_eq_some_getLast some_token
  simp only [tokens] at head final
  unfold statement?
  simp only [kind, bne_self_eq_false, Bool.false_eq_true, if_false, read, Bind.bind, Except.bind,
    head, final]
  exact ⟨_, rfl⟩

/-- Any other node gives none. -/
theorem statement?_other (before behind : List Node) {node : Node} (other : isImport node = false)
    (whole : node.kind = importKind → ∀ child ∈ node.children, child.Whole text) :
    statement? text before node behind = .ok none := by
  obtain ⟨found, result⟩ := statement?_ok before behind whole
  cases found with
  | none => exact result
  | some statement =>
    -- A statement would need a module and a token.
    obtain ⟨kind, specifier, first, last, read, head, -, -⟩ := statement?_eq_some result
    obtain ⟨found, read', same⟩ := specifier?_ok (whole kind)
    obtain rfl : some specifier = found := Except.ok.inj (read.symm.trans read')
    have told : isImport node = true := by
      refine isImport_iff.mpr ⟨kind, same.symm, ?_⟩
      rintro empty
      rw [empty] at head
      contradiction
    rw [told] at other
    contradiction

/-- A statement that a node gives where it stands among the top nodes of a tree. -/
def Gives (text : Text) (nodes before : List Node) (node : Node) (statement : ImportStatement) :
    Prop :=
  ∃ front behind, nodes = front ++ node :: behind ∧
    statement? text (front.reverse ++ before) node behind = .ok (some statement)

/-- What a node gives among others it gives with one more in front. -/
theorem Gives.cons {nodes before : List Node} {next node : Node} {statement : ImportStatement}
    (given : Gives text nodes (next :: before) node statement) :
    Gives text (next :: nodes) before node statement := by
  obtain ⟨front, behind, rfl, found⟩ := given
  exact ⟨next :: front, behind, rfl, by simpa using found⟩

/-- Nodes that cut no character give one statement for each import among them, in their order. -/
theorem importsFrom_census (before nodes : List Node)
    (whole : ∀ node ∈ nodes, node.kind = importKind → ∀ child ∈ node.children, child.Whole text) :
    ∃ statements, importsFrom text before nodes = .ok statements ∧
      List.Forall₂ (Gives text nodes before) (nodes.filter isImport) statements := by
  -- The induction is on the nodes, for any nodes in front of them: each node is told what it has
  -- passed.
  induction nodes generalizing before with
  | nil => exact ⟨[], rfl, .nil⟩
  | cons node rest ih =>
    obtain ⟨others, found, census⟩ := ih (node :: before)
      fun next mem => whole next (List.mem_cons_of_mem _ mem)
    have later := census.imp fun _ _ given => given.cons
    unfold importsFrom
    cases told : isImport node with
    | false =>
      have none := statement?_other before rest told (whole node List.mem_cons_self)
      simp only [none, found, Bind.bind, Except.bind]
      rw [List.filter_cons_of_neg (by simp [told])]
      exact ⟨others, rfl, later⟩
    -- The statement is given where the node stands, with nothing left in front of it.
    | true =>
      obtain ⟨statement, own⟩ := statement?_import before rest told
        (whole node List.mem_cons_self (isImport_iff.mp told).1)
      simp only [own, found, Bind.bind, Except.bind]
      rw [List.filter_cons_of_pos told]
      exact ⟨statement :: others, rfl, .cons ⟨[], rest, rfl, own⟩ later⟩

/-- The statements of nodes fall into those of the nodes in front of an import, its own, and those of
the nodes behind it. -/
theorem importsFrom_split {before front behind : List Node} {node : Node}
    {statements : List ImportStatement}
    (whole : ∀ next ∈ front ++ node :: behind, next.kind = importKind →
      ∀ child ∈ next.children, child.Whole text)
    (told : isImport node = true)
    (found : importsFrom text before (front ++ node :: behind) = .ok statements) :
    ∃ earlier statement later, statements = earlier ++ statement :: later ∧
      earlier.length = (front.filter isImport).length ∧
      statement? text (front.reverse ++ before) node behind = .ok (some statement) ∧
      importsFrom text (node :: (front.reverse ++ before)) behind = .ok later := by
  -- The induction is on the nodes in front. The nodes that were passed grow by each of them.
  induction front generalizing before statements with
  | nil =>
    obtain ⟨statement, own⟩ := statement?_import before behind told
      (whole node (by simp) (isImport_iff.mp told).1)
    obtain ⟨later, rest, -⟩ := importsFrom_census (node :: before) behind
      fun next mem => whole next (by simp [mem])
    rw [List.nil_append, importsFrom] at found
    simp only [own, rest, Bind.bind, Except.bind, pure, Except.pure, Except.ok.injEq] at found
    exact ⟨[], statement, later, found.symm, rfl, own, rest⟩
  | cons next front ih =>
    have whole_rest : ∀ other ∈ front ++ node :: behind, other.kind = importKind →
        ∀ child ∈ other.children, child.Whole text :=
      fun other mem => whole other (List.mem_cons_of_mem _ mem)
    obtain ⟨others, rest, -⟩ := importsFrom_census (next :: before) _ whole_rest
    obtain ⟨earlier, statement, later, rfl, count, own, behind_found⟩ := ih whole_rest rest
    rw [List.cons_append, importsFrom] at found
    -- What stands in front of the split grows by the statement of the first node, if it gives one.
    have moved : (next :: front).reverse ++ before = front.reverse ++ next :: before := by simp
    rw [moved]
    cases first : isImport next with
    | false =>
      have none := statement?_other before (front ++ node :: behind) first (whole next (by simp))
      simp only [none, rest, Bind.bind, Except.bind, pure, Except.pure, Except.ok.injEq] at found
      refine ⟨earlier, statement, later, found.symm, ?_, own, behind_found⟩
      rw [List.filter_cons_of_neg (by simp [first]), count]
    | true =>
      obtain ⟨head, own_head⟩ := statement?_import before (front ++ node :: behind) first
        (whole next (by simp) (isImport_iff.mp first).1)
      simp only [own_head, rest, Bind.bind, Except.bind, pure, Except.pure, Except.ok.injEq] at found
      refine ⟨head :: earlier, statement, later, by rw [← found]; rfl, ?_, own, behind_found⟩
      rw [List.filter_cons_of_pos first, List.length_cons, List.length_cons, count]

/-- A tree that cuts no character gives one statement for each of its imports, in their order. -/
theorem imports_census {root : Node} (whole : Whole text root) :
    ∃ statements, imports text root = .ok statements ∧
      List.Forall₂ (Gives text root.children []) (importNodes root) statements :=
  importsFrom_census [] root.children whole.inner

end Tree

end ImportOrder
