import ImportOrder.Ordering.NaturalKey

/-! Natural order is a total preorder: any two keys compare, and comparisons chain. -/

namespace ImportOrder.NaturalKey

/-- A comparison of code points by two tests is the comparison of numbers. -/
theorem compare_by_tests (m n : Nat) (rest : Ordering) :
    (if m < n then .lt else if n < m then .gt else rest) = (compare m n).then rest := by
  split
  · rename_i less
    rw [Nat.compare_eq_lt.mpr less]
    rfl
  · rename_i not_less
    split
    · rename_i greater
      rw [Nat.compare_eq_gt.mpr greater]
      rfl
    · -- Neither test holds of equal numbers alone.
      have same : m = n := by omega
      rw [Nat.compare_eq_eq.mpr same]
      rfl

/-- Texts compare as the lists of their code points. -/
theorem compareText_eq (a b : Text) :
    compareText a b = compare (a.map Char.toNat) (b.map Char.toNat) := by
  rw [List.compare_eq_compareLex]
  -- Both comparisons go through the two lists in step.
  induction a generalizing b with
  | nil =>
    cases b with
    | nil => rfl
    | cons d right => rfl
  | cons c left ih =>
    cases b with
    | nil => rfl
    | cons d right =>
      rw [compareText, ih, compare_by_tests, List.map_cons, List.map_cons,
        List.compareLex_cons_cons]

/-- Numbers compare as numbers, and no number comes first. -/
theorem compareNumber_eq (m n : Option Nat) : compareNumber m n = compare m n := by
  cases m with
  | none => cases n <;> rfl
  | some m =>
    cases n with
    | none => rfl
    | some n =>
      -- No number is in front of all numbers on both sides, so two numbers are left to compare.
      show (if m < n then .lt else if n < m then .gt else .eq) = compare m n
      rw [compare_by_tests, Ordering.then_eq]

/-- The comparison of two pieces of a key: the texts first, then the numbers behind them. -/
def comparePieces : Text × Option Nat → Text × Option Nat → Ordering :=
  compareLex (compareOn fun piece => piece.1.map Char.toNat) (compareOn Prod.snd)

/-- Keys compare piece by piece, as lists do. -/
theorem compareKeys_eq (a b : NaturalKey) :
    compareKeys a b = List.compareLex comparePieces a b := by
  induction a generalizing b with
  | nil =>
    cases b with
    | nil => rfl
    | cons q right => rfl
  | cons p left ih =>
    cases b with
    | nil => rfl
    | cons q right =>
      obtain ⟨text, number⟩ := p
      obtain ⟨text', number'⟩ := q
      rw [compareKeys, ih, compareText_eq, compareNumber_eq, List.compareLex_cons_cons]
      -- Both sides go on to the next comparison where one does not decide.
      show _ = ((compare (text.map Char.toNat) (text'.map Char.toNat)).then
        (compare number number')).then (List.compareLex comparePieces left right)
      cases compare (text.map Char.toNat) (text'.map Char.toNat) with
      | lt => rfl
      | gt => rfl
      | eq => cases compare number number' <;> rfl

/-- The comparison of keys is transitive and turns round with its arguments. -/
instance : Std.TransCmp compareKeys := by
  have same : compareKeys = List.compareLex comparePieces := by
    funext a b
    exact compareKeys_eq a b
  rw [same]
  unfold comparePieces
  infer_instance

/-- A key does not come behind another if it compares as less or equal. -/
theorem le_eq_isLE (a b : NaturalKey) : le a b = (compareKeys a b).isLE := by
  unfold le
  cases compareKeys a b <;> rfl

/-- The order of keys chains. -/
theorem le_trans (a b c : NaturalKey) (first : le a b = true) (second : le b c = true) :
    le a c = true := by
  rw [le_eq_isLE] at *
  exact Std.TransCmp.isLE_trans first second

/-- Of two keys one does not come behind the other. -/
theorem le_total (a b : NaturalKey) : (le a b || le b a) = true := by
  have turned : compareKeys b a = (compareKeys a b).swap := Std.OrientedCmp.eq_swap
  -- A comparison and its turned form are not both greater.
  rw [le_eq_isLE, le_eq_isLE, turned]
  cases compareKeys a b <;> rfl

/-- Texts that compare as equal are equal. -/
theorem eq_of_compareText {a b : Text} (equal : compareText a b = .eq) : a = b := by
  rw [compareText_eq] at equal
  -- A text is known by its code points.
  have codes : a.map Char.toNat = b.map Char.toNat := Std.LawfulEqOrd.eq_of_compare equal
  exact List.map_inj_right (fun c d same => Char.toNat_inj.mp same) |>.mp codes

/-- Keys that compare as equal are equal. -/
theorem eq_of_compareKeys {a b : NaturalKey} (equal : compareKeys a b = .eq) : a = b := by
  -- One key ends before the other only if they compare as different.
  induction a generalizing b with
  | nil =>
    cases b with
    | nil => rfl
    | cons q right => contradiction
  | cons p left ih =>
    cases b with
    | nil => contradiction
    | cons q right =>
      obtain ⟨text, number⟩ := p
      obtain ⟨text', number'⟩ := q
      rw [compareKeys] at equal
      -- Every comparison on the way has to leave the decision to the next one.
      split at equal
      · rename_i texts
        split at equal
        · rename_i numbers
          rw [compareNumber_eq] at numbers
          rw [eq_of_compareText texts, Std.LawfulEqOrd.eq_of_compare numbers, ih equal]
        · contradiction
      · contradiction

/-- Keys that do not come behind each other are equal. -/
theorem le_antisymm {a b : NaturalKey} (first : le a b = true) (second : le b a = true) :
    a = b := by
  apply eq_of_compareKeys
  have turned : compareKeys b a = (compareKeys a b).swap := Std.OrientedCmp.eq_swap
  rw [le_eq_isLE] at first
  rw [le_eq_isLE, turned] at second
  -- Each of the two strict results is turned round by the other hypothesis.
  cases compared : compareKeys a b with
  | lt => simp [compared] at second
  | eq => rfl
  | gt => simp [compared] at first

/-- A key that does not come behind another is in front of it where the other is not in front. -/
theorem le_of_not_le {a b : NaturalKey} (behind : le b a = false) : le a b = true := by
  simpa [behind] using le_total a b

end ImportOrder.NaturalKey
