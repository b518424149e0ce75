/-! Syntax trees with byte offsets, and the search for their first error. -/

namespace ImportOrder

/-- A node of a syntax tree: its kind, its bytes, its children, the role it plays in its parent,
whether it stands for something that is missing, and whether it is marked as faulty. -/
structure Node where
  kind : String
  start : Nat
  stop : Nat
  children : List Node := []
  role : Option String := none
  missing : Bool := false
  marked : Bool := false
deriving Repr

namespace Node

/-- The kind of the nodes that hold what could not be read. -/
def errorKind : String := "ERROR"

/-- Whether a node itself is a fault. -/
def isFault (node : Node) : Bool := node.kind == errorKind || node.missing

mutual

/-- Whether a node or one below it is faulty. -/
def hasError : Node → Bool
  | ⟨kind, _, _, children, _, missing, marked⟩ =>
    marked || kind == errorKind || missing || anyError children

/-- Whether one of some nodes is faulty. -/
def anyError : List Node → Bool
  | [] => false
  | node :: rest => hasError node || anyError rest

end

mutual

/-- The number of nodes of a tree. -/
def size : Node → Nat
  | ⟨_, _, _, children, _, _, _⟩ => sizes children + 1

/-- The number of nodes of some trees. -/
def sizes : List Node → Nat
  | [] => 0
  | node :: rest => size node + sizes rest

end

/-- A tree is its root and what is below it. -/
theorem size_eq (node : Node) : node.size = sizes node.children + 1 := by
  cases node; simp [size]

/-- Trees side by side have the nodes of both parts. -/
theorem sizes_append (left right : List Node) :
    sizes (left ++ right) = sizes left + sizes right := by
  induction left with
  | nil => simp [sizes]
  | cons node rest ih => simp [sizes, ih]; omega

/-- The first fault in the trees of a stack, where a tree without errors is passed over. -/
def searchStack : List Node → Option Node
  | [] => none
  | node :: stack =>
    if node.isFault then some node
    -- A tree without errors below it holds no fault, so its nodes need not be looked at.
    else if node.hasError then searchStack (node.children ++ stack)
    else searchStack stack
termination_by stack => sizes stack
decreasing_by
  · simp only [sizes_append, sizes, size_eq]; omega
  · simp only [sizes, size_eq]; omega

/-- The first fault of a tree in the order of the text. -/
def firstFault? (root : Node) : Option Node := searchStack [root]

/-- The first child that plays a role. -/
def child? (node : Node) (role : String) : Option Node :=
  node.children.find? fun child => child.role == some role

end Node

end ImportOrder
