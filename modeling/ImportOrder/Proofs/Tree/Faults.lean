import ImportOrder.Tree.Imports
import Mathlib.Data.List.Induction

/-! The search for the first fault of a tree passes over what has no errors, and still finds the fault
that a walk through every node meets first; a tree with errors is refused at the place of that fault. -/

namespace ImportOrder

namespace Utf8

/-- Bytes divided behind their last line feed: the lines that end in them, and what is open. -/
structure Divided (bytes ended rest : Bytes) : Prop where
  joined : bytes = ended ++ rest
  feed : ended = [] ∨ ended.getLast? = some 10
  clear : 10 ∉ rest

/-- The line and the column, counted from one, of a byte offset: the lines that end in front of it, and
the bytes between the last of them and the offset. -/
def Stands (text : Text) (offset line column : Nat) : Prop :=
  ∃ ended rest, Divided ((encode text).take offset) ended rest ∧
    line = ended.count 10 + 1 ∧ column = offset - ended.length + 1

theorem exists_divided (bytes : Bytes) : ∃ ended rest, Divided bytes ended rest := by
  -- Byte after byte, the open line grows until a line feed ends it.
  induction bytes using List.reverseRecOn with
  | nil => exact ⟨[], [], rfl, .inl rfl, by simp⟩
  | append_singleton bytes byte ih =>
    obtain ⟨ended, rest, rfl, feed, clear⟩ := ih
    by_cases ends : byte = 10
    · exact ⟨ended ++ rest ++ [byte], [], by simp, .inr (by simp [ends]), by simp⟩
    · refine ⟨ended, rest ++ [byte], by simp, feed, ?_⟩
      simpa [clear] using fun same => ends same.symm

/-- Read backwards, the bytes in front of the last line feed are those of the open line. -/
theorem Divided.takeWhile_reverse {bytes ended rest : Bytes} (divided : Divided bytes ended rest) :
    bytes.reverse.takeWhile (· != 10) = rest.reverse := by
  obtain ⟨rfl, feed, clear⟩ := divided
  have passes : ∀ byte ∈ rest.reverse, (byte != 10) = true := by
    intro byte mem
    rw [bne_iff_ne]
    rintro rfl
    exact clear (List.mem_reverse.mp mem)
  -- The line feed that ends the other lines is the first byte behind them.
  have stops : ended.reverse.takeWhile (· != 10) = [] := by
    rcases feed with rfl | last
    · rfl
    · rw [← List.head?_reverse] at last
      obtain ⟨others, shape⟩ := List.head?_eq_some_iff.mp last
      simp [shape]
  rw [List.reverse_append, List.takeWhile_append_of_pos passes, stops, List.append_nil]

/-- The line and the column of an offset are read off the division of what is in front of it. -/
theorem Divided.pointOf_eq {text : Text} {offset : Nat} {ended rest : Bytes}
    (divided : Divided ((encode text).take offset) ended rest) :
    pointOf text offset = (ended.count 10, offset - ended.length) := by
  -- An offset beyond the text counts the bytes that are not there as part of the open line.
  have size : ended.length + rest.length = min offset (encode text).length := by
    rw [← List.length_append, ← divided.joined, List.length_take]
  unfold pointOf
  simp only [divided.takeWhile_reverse, List.length_reverse]
  simp only [divided.joined, List.count_append, List.count_eq_zero_of_not_mem divided.clear,
    Nat.add_zero, List.length_append]
  congr 1
  split <;> omega

/-- An offset has one line and one column. -/
theorem stands_iff {text : Text} {offset line column : Nat} :
    Stands text offset line column ↔
      line = (pointOf text offset).1 + 1 ∧ column = (pointOf text offset).2 + 1 := by
  constructor
  · rintro ⟨ended, rest, divided, rfl, rfl⟩
    rw [divided.pointOf_eq]
    exact ⟨rfl, rfl⟩
  · rintro ⟨rfl, rfl⟩
    obtain ⟨ended, rest, divided⟩ := exists_divided ((encode text).take offset)
    rw [divided.pointOf_eq]
    exact ⟨ended, rest, divided, rfl, rfl⟩

end Utf8

namespace Node

/-- What holds of a node as soon as it holds of its children holds of every node. -/
@[elab_as_elim]
theorem inherited {motive : Node → Prop}
    (step : ∀ node : Node, (∀ child ∈ node.children, motive child) → motive node) (node : Node) :
    motive node :=
  -- Over a list of children, the recursor carries the statement for each of them.
  @Node.rec motive (fun nodes => ∀ node ∈ nodes, motive node)
    (fun _ _ _ _ _ _ _ ih => step _ ih)
    (fun _ mem => absurd mem List.not_mem_nil)
    (fun _ _ head tail => List.forall_mem_cons.mpr ⟨head, tail⟩)
    node

mutual

/-- The nodes of a tree, each in front of what is below it. -/
def preorder : Node → List Node
  | ⟨kind, start, stop, children, role, missing, marked⟩ =>
    ⟨kind, start, stop, children, role, missing, marked⟩ :: preorders children

/-- The nodes of some trees, one tree after the other. -/
def preorders : List Node → List Node
  | [] => []
  | node :: rest => preorder node ++ preorders rest

end

/-- A walk meets a node and then what is below it. -/
theorem preorder_eq (node : Node) : node.preorder = node :: preorders node.children := by
  cases node; rfl

/-- A walk through trees side by side goes through both parts. -/
theorem preorders_append (left right : List Node) :
    preorders (left ++ right) = preorders left ++ preorders right := by
  -- The induction is on the trees of the left part.
  induction left with
  | nil => rfl
  | cons node rest ih => simp [preorders, ih]

theorem mem_preorders {nodes : List Node} {below : Node} :
    below ∈ preorders nodes ↔ ∃ node ∈ nodes, below ∈ node.preorder := by
  induction nodes with
  | nil => simp [preorders]
  | cons node rest ih => simp [preorders, ih]

theorem mem_preorder {node below : Node} :
    below ∈ node.preorder ↔ below = node ∨ ∃ child ∈ node.children, below ∈ child.preorder := by
  rw [preorder_eq, List.mem_cons, mem_preorders]

theorem anyError_iff {nodes : List Node} :
    anyError nodes = true ↔ ∃ node ∈ nodes, node.hasError = true := by
  -- Trees side by side are looked at one by one.
  induction nodes with
  | nil => simp [anyError]
  | cons node rest ih => simp [anyError, ih]

/-- A node has errors if it is marked, if it is a fault, or if one of its children has errors. -/
theorem hasError_iff {node : Node} : node.hasError = true ↔
    node.marked = true ∨ node.isFault = true ∨ ∃ child ∈ node.children, child.hasError = true := by
  cases node
  simp [hasError, isFault, anyError_iff, or_assoc]

/-- A flag of the nodes of a tree that goes up from every fault: a node has it if it is a fault or if
one of its children has it. It may be set elsewhere too. -/
def Flagged (flag : Node → Bool) (root : Node) : Prop :=
  ∀ node ∈ root.preorder,
    (node.isFault = true ∨ ∃ child ∈ node.children, flag child = true) → flag node = true

instance (flag : Node → Bool) (root : Node) : Decidable (Flagged flag root) :=
  inferInstanceAs (Decidable (∀ node ∈ root.preorder,
    (node.isFault = true ∨ ∃ child ∈ node.children, flag child = true) → flag node = true))

theorem Flagged.child {flag : Node → Bool} {node child : Node} (flagged : Flagged flag node)
    (mem : child ∈ node.children) : Flagged flag child :=
  fun below inside => flagged below (mem_preorder.mpr (.inr ⟨child, mem, inside⟩))

/-- A tree without the flag holds no fault. -/
theorem Flagged.clear {flag : Node → Bool} {root : Node} (flagged : Flagged flag root)
    (unset : flag root = false) : ∀ node ∈ root.preorder, node.isFault = false := by
  -- The induction is on the tree. A fault further down would have set the flag of a child.
  induction root using inherited with
  | step root ih =>
    -- Neither cause of the flag is there: the root is no fault, and no child has the flag.
    have quiet := mt (flagged root (mem_preorder.mpr (.inl rfl))) (by simp [unset])
    rw [not_or, Bool.not_eq_true] at quiet
    intro node mem
    rcases mem_preorder.mp mem with rfl | ⟨child, child_mem, inside⟩
    · exact quiet.1
    · -- The flag of the child would have gone up to the root.
      have child_unset : flag child = false :=
        Bool.eq_false_iff.mpr fun set => quiet.2 ⟨child, child_mem, set⟩
      exact ih child child_mem (flagged.child child_mem) child_unset node inside

/-- Having errors is such a flag. -/
theorem hasError_flagged (root : Node) : Flagged hasError root :=
  fun _ _ cause => hasError_iff.mpr (.inr cause)

/-- Marks that are such a flag are the errors of the nodes. -/
theorem Flagged.hasError_eq {root : Node} (flagged : Flagged marked root) :
    ∀ node ∈ root.preorder, node.hasError = node.marked := by
  -- The induction is on the tree, since the errors of a node are those of its children.
  induction root using inherited with
  | step root ih =>
    intro node mem
    rcases mem_preorder.mp mem with rfl | ⟨child, child_mem, inside⟩
    · rw [Bool.eq_iff_iff, hasError_iff]
      constructor
      · rintro (mark | fault | ⟨child, child_mem, error⟩)
        · exact mark
        · exact flagged node mem (.inl fault)
        · -- The errors of a child are its mark, which goes up.
          have same := ih child child_mem (flagged.child child_mem) child
            (mem_preorder.mpr (.inl rfl))
          exact flagged node mem (.inr ⟨child, child_mem, same ▸ error⟩)
      · exact .inl
    · exact ih child child_mem (flagged.child child_mem) node inside

/-- One round of a search over a stack with its top at the end: the answer, or the stack that is left.
The top is taken off, and the children of a tree with the flag are put back in reverse, so that the
first of them is on top. -/
def searchRound (flag : Node → Bool) (stack : List Node) : Option Node ⊕ List Node :=
  match stack.getLast? with
  | none => .inl none
  -- A fault is the answer whether its flag is set or not.
  | some node =>
    if node.isFault then .inl (some node)
    else if flag node then .inr (stack.dropLast ++ node.children.reverse)
    else .inr stack.dropLast

/-- The answer of such a search if it takes no more than some number of rounds. -/
def searchRounds (flag : Node → Bool) : Nat → List Node → Option (Option Node)
  | 0, _ => none
  | limit + 1, stack =>
    match searchRound flag stack with
    | .inl answer => some answer
    | .inr left => searchRounds flag limit left

/-- Read from its top, the stack of a round is the list of trees that are still to be searched. -/
theorem searchRound_reverse (flag : Node → Bool) (node : Node) (stack : List Node) :
    searchRound flag (node :: stack).reverse =
      if node.isFault then .inl (some node)
      else if flag node then .inr (node.children ++ stack).reverse
      else .inr stack.reverse := by
  simp [searchRound]

/-- With a flag that goes up from every fault, the rounds end, and they find the first fault of a walk
through the trees. There are no more of them than nodes, and one that sees the empty stack. -/
theorem searchRounds_eq {flag : Node → Bool} {stack : List Node}
    (flagged : ∀ node ∈ stack, Flagged flag node) {limit : Nat} (enough : sizes stack < limit) :
    searchRounds flag limit stack.reverse = some ((preorders stack).find? isFault) := by
  -- The induction is on the rounds that are left, over every stack they are enough for.
  induction limit generalizing stack with
  | zero => exact absurd enough (Nat.not_lt_zero _)
  | succ limit ih =>
    cases stack with
    | nil => rfl
    | cons node stack =>
      obtain ⟨own, others⟩ := List.forall_mem_cons.mp flagged
      simp only [sizes, size_eq] at enough
      -- A round takes off the top at least, so the nodes that are left become fewer.
      rw [searchRounds, searchRound_reverse]
      by_cases fault : node.isFault = true
      · simp [fault, preorders, preorder_eq]
      · by_cases set : flag node = true
        · -- The walk meets the node first, and then its children in its place.
          have below : ∀ next ∈ node.children ++ stack, Flagged flag next :=
            List.forall_mem_append.mpr ⟨fun _ mem => own.child mem, others⟩
          simp only [if_neg fault, if_pos set]
          rw [ih below (by rw [sizes_append]; omega), preorders_append]
          simp [preorders, preorder_eq, fault]
        · -- The whole tree is passed over, and the walk meets no fault in it.
          have none : node.preorder.find? isFault = none := by
            simpa using own.clear (Bool.eq_false_iff.mpr set)
          simp only [if_neg fault, if_neg set]
          rw [ih others (by omega), preorders, List.find?_append, none, Option.none_or]

/-- The search that passes over trees without errors goes through the rounds for that flag. -/
theorem searchRounds_hasError {stack : List Node} {limit : Nat} (enough : sizes stack < limit) :
    searchRounds hasError limit stack.reverse = some (searchStack stack) := by
  -- The recursive search and the rounds take the same step, so they agree as long as there are
  -- rounds.
  induction limit generalizing stack with
  | zero => exact absurd enough (Nat.not_lt_zero _)
  | succ limit ih =>
    cases stack with
    | nil => simp [searchRounds, searchRound, searchStack]
    | cons node stack =>
      simp only [sizes, size_eq] at enough
      rw [searchRounds, searchRound_reverse, searchStack]
      by_cases fault : node.isFault = true
      · simp only [if_pos fault]
      · by_cases error : node.hasError = true
        · simp only [if_neg fault, if_pos error]
          exact ih (by rw [sizes_append]; omega)
        · simp only [if_neg fault, if_neg error]
          exact ih (by omega)

theorem searchStack_eq (stack : List Node) :
    searchStack stack = (preorders stack).find? isFault := by
  -- One round more than there are nodes, for the stack that is empty at the end.
  have enough : sizes stack < sizes stack + 1 := Nat.lt_succ_self _
  have found := searchRounds_eq (fun node _ => hasError_flagged node) enough
  exact Option.some.inj ((searchRounds_hasError enough).symm.trans found)

theorem firstFault?_eq (root : Node) : root.firstFault? = root.preorder.find? isFault := by
  rw [firstFault?, searchStack_eq, preorders, preorders, List.append_nil]

end Node

namespace Tree

/-- A tree with errors is refused at its first fault, or at its root where it has none. -/
theorem check_eq_error_iff {path : String} {text : Text} {root : Node} {fault : SourceError} :
    check path text root = .error fault ↔ root.hasError = true ∧
      ∃ line column, Utf8.Stands text (root.firstFault?.getD root).start line column ∧
        fault = .malformed path line column := by
  unfold check
  -- Only the flag of the root decides, and the place is a function of the offset.
  by_cases error : root.hasError = true
  · rw [if_pos error, Except.error.injEq]
    constructor
    · rintro rfl
      exact ⟨error, _, _, Utf8.stands_iff.mpr ⟨rfl, rfl⟩, rfl⟩
    · rintro ⟨-, line, column, stands, rfl⟩
      obtain ⟨rfl, rfl⟩ := Utf8.stands_iff.mp stands
      rfl
  · simp [error]

/-- The first fault of a tree is found and reported. For any flag that goes up from every fault, the
search that only opens trees with the flag comes to an end and finds what the search for the first
fault finds: the first fault of a walk through every node, or nothing where no node is a fault. Having
errors is such a flag, and marks that are one are the errors of the nodes. A tree is refused if and
only if its root has errors, with the line and the column of that fault, or of the root where there is
none. -/
theorem faults_located (path : String) (text : Text) (root : Node) :
    (∀ flag, Node.Flagged flag root → ∀ limit, root.size < limit →
      Node.searchRounds flag limit [root] = some root.firstFault?) ∧
    root.firstFault? = root.preorder.find? Node.isFault ∧
    (root.firstFault? = none ↔ ∀ node ∈ root.preorder, node.isFault = false) ∧
    Node.Flagged Node.hasError root ∧
    (Node.Flagged Node.marked root → ∀ node ∈ root.preorder, node.hasError = node.marked) ∧
    (check path text root = .ok () ↔ root.hasError = false) ∧
    ∀ fault, check path text root = .error fault ↔ root.hasError = true ∧
      ∃ line column,
        Utf8.Stands text ((root.preorder.find? Node.isFault).getD root).start line column ∧
        fault = .malformed path line column := by
  have first := Node.firstFault?_eq root
  refine ⟨?_, first, ?_, Node.hasError_flagged root, Node.Flagged.hasError_eq, ?_, ?_⟩
  · intro flag flagged limit enough
    have sized : Node.sizes [root] < limit := by simpa [Node.sizes] using enough
    have found := Node.searchRounds_eq (List.forall_mem_singleton.mpr flagged) sized
    rw [first]
    simpa [Node.preorders] using found
  · rw [first]
    simp
  · cases error : root.hasError <;> simp [check, error]
  · intro fault
    rw [← first]
    exact check_eq_error_iff

/-- Three lines, the second of which lacks a bracket. -/
def bracketText : Text := "f;\ng(;\n?".toList

/-- The statement of the first line, marked although nothing in it is a fault. -/
def bracketFirst : Node where
  kind := "expression_statement"
  start := 0
  stop := 2
  marked := true
  children := [{ kind := "identifier", start := 0, stop := 1 }, { kind := ";", start := 1, stop := 2 }]

/-- The tree of that text, with the missing bracket deep in the second line and a fault of its own in
the third. -/
def bracketRoot : Node where
  kind := "program"
  start := 0
  stop := 8
  marked := true
  children :=
    [ bracketFirst,
      { kind := "expression_statement", start := 3, stop := 6, marked := true, children :=
          [ { kind := "call_expression", start := 3, stop := 5, marked := true, children :=
                [ { kind := "identifier", start := 3, stop := 4 },
                  { kind := "arguments", start := 4, stop := 5, marked := true, children :=
                      [ { kind := "(", start := 4, stop := 5 },
                        { kind := ")", start := 5, stop := 5, missing := true, marked := true } ] }
                ] },
            { kind := ";", start := 5, stop := 6 } ] },
      { kind := "ERROR", start := 7, stop := 8, marked := true } ]

/-- The missing bracket is found behind a statement that is marked in vain, and in front of the fault
of the last line; the marked statement alone is refused at its start. -/
theorem faults_located_bracket :
    Node.Flagged Node.marked bracketRoot ∧ bracketRoot.size < 13 ∧
      Node.searchRounds Node.marked 13 [bracketRoot] = some bracketRoot.firstFault? ∧
      bracketRoot.firstFault?.map (fun node => (node.kind, node.start)) = some (")", 5) ∧
      check "a.ts" bracketText bracketRoot = .error (.malformed "a.ts" 2 3) ∧
      (SourceError.malformed "a.ts" 2 3).message =
        "Cannot parse a.ts: syntax error at line 2, column 3" ∧
      bracketFirst.firstFault? = none ∧
      check "a.ts" bracketText bracketFirst = .error (.malformed "a.ts" 1 1) := by
  have flagged : Node.Flagged Node.marked bracketRoot := by decide
  have enough : bracketRoot.size < 13 := by decide
  obtain ⟨ends, first, -, -, marks, -, refused⟩ := faults_located "a.ts" bracketText bracketRoot
  obtain ⟨-, -, vain, -, -, -, refused'⟩ := faults_located "a.ts" bracketText bracketFirst
  have error : bracketRoot.hasError = true :=
    marks flagged bracketRoot (Node.mem_preorder.mpr (.inl rfl))
  -- One line and two bytes are in front of the bracket.
  have stands : Utf8.Stands bracketText 5 2 3 :=
    ⟨[102, 59, 10], [103, 40], ⟨rfl, .inr rfl, by decide⟩, rfl, rfl⟩
  have stands' : Utf8.Stands bracketText 0 1 1 := ⟨[], [], ⟨rfl, .inl rfl, by decide⟩, rfl, rfl⟩
  refine ⟨flagged, enough, ends Node.marked flagged 13 enough, ?_, ?_, rfl, ?_, ?_⟩
  · rw [first]
    rfl
  · exact (refused _).mpr ⟨error, 2, 3, stands, rfl⟩
  · exact vain.mpr (by decide)
  · exact (refused' _).mpr ⟨rfl, 1, 1, stands', rfl⟩

end Tree

end ImportOrder
