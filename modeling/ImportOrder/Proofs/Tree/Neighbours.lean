import ImportOrder.Proofs.Tree.WellFormed
import Mathlib.Data.List.TakeWhile

/-! Where a statement and its comments stand among the other nodes, and which comments two statements
share. -/

namespace ImportOrder

namespace Tree

variable {text : Text}

/-- Every element of a run is compared with an element that ends the run. -/
theorem takeWhile_related {R : Node → Node → Prop} {p : Node → Bool} {nodes : List Node}
    (ordered : nodes.Pairwise R) {member other : Node} (run : member ∈ nodes.takeWhile p)
    (present : other ∈ nodes) (stops : p other = false) : R member other := by
  rw [← List.takeWhile_append_dropWhile (p := p) (l := nodes)] at ordered present
  rcases List.mem_append.mp present with inside | behind
  · -- The run holds no element that would end it.
    rw [List.mem_takeWhile_imp inside] at stops
    contradiction
  · exact (List.pairwise_append.mp ordered).2.2 member run other behind

/-- A run goes no further than an element that ends it. -/
theorem takeWhile_append_stop {p : Node → Bool} {stopper : Node} (stops : p stopper = false)
    (front back : List Node) : (front ++ stopper :: back).takeWhile p = front.takeWhile p := by
  -- The run ends inside the front or at the stopper, never behind it.
  induction front with
  | nil => simp [stops]
  | cons node front ih =>
    by_cases holds : p node = true
    · simp [holds, ih]
    · simp [holds]

/-- A byte offset where a statement may start together with comments: no neighbour reaches across it,
and what is no comment ends in front of it. -/
structure StartEdge (before : List Node) (node : Node) (edge : Nat) : Prop where
  apart : ∀ left ∈ before, left.stop ≤ edge ∨ edge ≤ left.start
  clear : ∀ left ∈ before, isComment left = false → left.stop ≤ edge
  reached : edge ≤ node.stop

/-- A byte offset where a statement may stop together with comments: no neighbour reaches across it,
and what is no comment starts behind it. -/
structure StopEdge (node : Node) (behind : List Node) (edge : Nat) : Prop where
  apart : ∀ right ∈ behind, right.stop ≤ edge ∨ edge ≤ right.start
  clear : ∀ right ∈ behind, isComment right = false → edge ≤ right.start
  reached : node.start ≤ edge

section Edges

variable {before behind : List Node} {node : Node}
  (laid : Laid text 0 (Utf8.length text) (before.reverse ++ node :: behind))
include laid

/-- Nodes in front of a statement, the nearest first, start behind those that come later. -/
theorem before_ordered : before.Pairwise fun right left => left.stop ≤ right.start :=
  List.pairwise_reverse.mp (List.pairwise_append.mp laid.ordered).1

/-- An offset inside the statement is such a start. -/
theorem startEdge_inside {edge : Nat} (least : node.start ≤ edge) (greatest : edge ≤ node.stop) :
    StartEdge before node edge := by
  -- Whatever is in front of the node ends in front of the edge.
  have ends : ∀ left ∈ before, left.stop ≤ edge := by
    intro left mem
    exact Nat.le_trans (laid.around.1 left (List.mem_reverse.mpr mem)) least
  exact ⟨fun left mem => .inl (ends left mem), fun left mem _ => ends left mem, greatest⟩

/-- The start of a comment in the run in front of the statement is such a start. -/
theorem startEdge_comment {comment : Node} (run : comment ∈ before.takeWhile isComment) :
    StartEdge before node comment.start := by
  have mem := (List.takeWhile_sublist _).subset run
  have all_mem : ∀ left ∈ before, left ∈ before.reverse ++ node :: behind := by
    intro left present
    exact List.mem_append_left _ (List.mem_reverse.mpr present)
  have valid := (laid.bounded comment (all_mem comment mem)).2.1
  refine ⟨?_, ?_, ?_⟩
  · intro left present
    have own := (laid.bounded left (all_mem left present)).2.1
    -- Another node is the comment itself, or stands on one side of it.
    rcases laid.apart (all_mem left present) (all_mem comment mem) with rfl | le | le
    · exact .inr (Nat.le_refl _)
    · exact .inl le
    · exact .inr (by omega)
  · intro left present other
    -- What is no comment ended the run, so it stands further to the left.
    exact takeWhile_related (before_ordered laid) run present other
  · have own := (laid.bounded node (by simp)).2.1
    have front := laid.around.1 comment (List.mem_reverse.mpr mem)
    omega

/-- An offset inside the statement is such a stop. -/
theorem stopEdge_inside {edge : Nat} (least : node.start ≤ edge) (greatest : edge ≤ node.stop) :
    StopEdge node behind edge := by
  -- Whatever is behind the node starts behind the edge.
  have starts : ∀ right ∈ behind, edge ≤ right.start := by
    intro right mem
    exact Nat.le_trans greatest (laid.around.2 right mem)
  exact ⟨fun right mem => .inr (starts right mem), fun right mem _ => starts right mem, least⟩

/-- The stop of a comment in the run behind the statement is such a stop. -/
theorem stopEdge_comment {comment : Node} (run : comment ∈ behind.takeWhile isComment) :
    StopEdge node behind comment.stop := by
  have mem := (List.takeWhile_sublist _).subset run
  have all_mem : ∀ right ∈ behind, right ∈ before.reverse ++ node :: behind := by
    intro right present
    exact List.mem_append_right _ (List.mem_cons_of_mem _ present)
  have valid := (laid.bounded comment (all_mem comment mem)).2.1
  refine ⟨?_, ?_, ?_⟩
  · intro right present
    have own := (laid.bounded right (all_mem right present)).2.1
    -- Another node is the comment itself, or stands on one side of it.
    rcases laid.apart (all_mem right present) (all_mem comment mem) with rfl | le | le
    · exact .inl (Nat.le_refl _)
    · exact .inl (by omega)
    · exact .inr le
  · intro right present other
    -- What is no comment ended the run, so it stands further to the right.
    have tail := (List.pairwise_append.mp laid.ordered).2.1
    exact takeWhile_related (List.pairwise_cons.mp tail).2 run present other
  · have own := (laid.bounded node (by simp)).2.1
    have back := laid.around.2 comment mem
    omega

end Edges

end Tree

end ImportOrder
