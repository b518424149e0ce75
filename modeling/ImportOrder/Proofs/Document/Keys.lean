import ImportOrder.Document.Basic
import Mathlib.Data.Rat.Cast.Order

/-! The keys of mappings. Two documents are the same key if they stand for the same thing, where
numbers count by their value, so the same key is the same from both sides and along any chain. Hence
a value that is given to a key is what the key has afterwards, and a mapping that is laid over
another one wins where both have a key. -/

namespace ImportOrder

namespace Binary64

/-- The value of a finite number. -/
def valueOf (negative : Bool) (mantissa : Nat) (exponent : Int) : ℚ :=
  signed negative mantissa * 2 ^ exponent

/-- A power of two that is a whole number. -/
theorem zpow_two_of_nonneg {exponent : Int} (nonneg : 0 ≤ exponent) :
    (2 : ℚ) ^ exponent = ((Nat.pow 2 exponent.toNat : Nat) : ℚ) := by
  -- The exponent is a natural number, and the power is the natural one.
  obtain ⟨n, rfl⟩ := Int.eq_ofNat_of_zero_le nonneg
  simp

/-- A sign goes along with a factor. -/
theorem signed_mul (negative : Bool) (mantissa factor : Nat) :
    signed negative (mantissa * factor) = signed negative mantissa * factor := by
  cases negative <;> simp [signed]

/-- A finite number equals a whole number exactly if its value is that number. -/
theorem equalsInt_finite_iff {negative : Bool} {mantissa : Nat} {exponent : Int} {n : Int} :
    equalsInt (.finite negative mantissa exponent) n = true ↔
      valueOf negative mantissa exponent = n := by
  unfold equalsInt valueOf
  dsimp only
  split
  · -- A power that is a whole number is a factor of the mantissa.
    rename_i whole
    rw [beq_iff_eq, signed_mul, zpow_two_of_nonneg whole]
    exact_mod_cast Iff.rfl
  · -- A negative power is moved to the other side.
    rename_i fraction
    have inverse : (2 : ℚ) ^ exponent = ((Nat.pow 2 (-exponent).toNat : Nat) : ℚ)⁻¹ := by
      rw [← zpow_two_of_nonneg (by omega), zpow_neg, inv_inv]
    have positive : ((Nat.pow 2 (-exponent).toNat : Nat) : ℚ) ≠ 0 := by
      simp
    rw [beq_iff_eq, inverse, ← div_eq_mul_inv, div_eq_iff positive]
    exact_mod_cast Iff.rfl

/-- Two finite numbers are equal exactly if their values are. -/
theorem equals_finite_iff {s t : Bool} {m n : Nat} {e f : Int} :
    equals (.finite s m e) (.finite t n f) = true ↔ valueOf s m e = valueOf t n f := by
  -- Both values are whole numbers times the power with the smaller exponent.
  have aligned : ∀ (negative : Bool) (mantissa : Nat) (exponent : Int), min e f ≤ exponent →
      valueOf negative mantissa exponent =
        ((signed negative mantissa * Nat.pow 2 (exponent - min e f).toNat : Int) : ℚ) *
          2 ^ min e f := by
    intro negative mantissa exponent above
    have split : (2 : ℚ) ^ exponent = 2 ^ (exponent - min e f) * 2 ^ min e f := by
      rw [← zpow_add₀ (by norm_num), sub_add_cancel]
    rw [valueOf, split, zpow_two_of_nonneg (by omega)]
    push_cast
    rw [mul_assoc]
  have positive : (2 : ℚ) ^ min e f ≠ 0 := zpow_ne_zero _ (by norm_num)
  unfold equals
  dsimp only
  -- The common power cancels, and whole numbers are left to be compared.
  rw [beq_iff_eq, aligned s m e (min_le_left _ _), aligned t n f (min_le_right _ _),
    mul_left_inj' positive]
  exact_mod_cast Iff.rfl

end Binary64

/-- What a key of a mapping stands for. -/
inductive Key
  | null
  | text (value : String)
  | date (year month day : Nat)
  | moment (value : Moment)
  | number (value : ℚ)
  | infinite (negative : Bool)

/-- What a number stands for as a key: nothing for what is not a number. -/
def Binary64.key? : Binary64 → Option Key
  | .finite negative mantissa exponent => some (.number (valueOf negative mantissa exponent))
  | .infinite negative => some (.infinite negative)
  | .nan => none

/-- A number equals a whole number exactly if it stands for it. -/
theorem Binary64.equalsInt_iff {x : Binary64} {n : Int} :
    x.equalsInt n = true ↔ x.key? = some (.number n) := by
  cases x with
  | finite => simp [equalsInt_finite_iff, key?]
  | infinite => simp [equalsInt, key?]
  | nan => simp [equalsInt, key?]

/-- Two numbers are equal exactly if they stand for the same. -/
theorem Binary64.equals_iff {x y : Binary64} :
    x.equals y = true ↔ x.key?.isSome ∧ x.key? = y.key? := by
  -- What is not a number equals nothing, itself included, and so it stands for nothing.
  cases x with
  | finite =>
    cases y with
    | finite => simp [equals_finite_iff, key?]
    | _ => simp [equals, key?]
  | infinite => cases y <;> simp [equals, key?]
  | nan => simp [equals, key?]

namespace Document

/-- What a document stands for as a key: nothing for a pair, a list and a mapping. A truth value is a
number. -/
def key? : Document → Option Key
  | .null => some .null
  | .bool value => some (.number ((if value then 1 else 0 : Int) : ℚ))
  | .int value => some (.number value)
  | .real value => value.key?
  | .text value => some (.text value)
  | .date year month day => some (.date year month day)
  | .moment value => some (.moment value)
  | .pair .. => none
  | .list _ => none
  | .mapping _ => none

/-- Two documents are the same key exactly if they stand for the same thing. -/
theorem sameKey_iff {a b : Document} :
    sameKey a b = true ↔ a.key?.isSome ∧ a.key? = b.key? := by
  -- Numbers of two kinds are compared by their values, and all else within its own kind.
  have whole : ∀ {x : Binary64} {n : Int},
      x.equalsInt n = true ↔ x.key?.isSome ∧ x.key? = some (.number n) := by
    intro x n
    rw [Binary64.equalsInt_iff]
    exact ⟨fun same => ⟨by simp [same], same⟩, And.right⟩
  have swapped : ∀ {x : Binary64} {n : Int},
      x.equalsInt n = true ↔ some (.number n) = x.key? := by
    intro x n
    rw [Binary64.equalsInt_iff, eq_comm]
  cases a with
  | real x =>
    cases b with
    | real y => exact Binary64.equals_iff
    | bool => exact whole
    | int => exact whole
    | _ => cases x <;> simp [sameKey, key?, asInt?, Binary64.key?]
  | bool p =>
    -- A truth value is zero or one, also beside a number.
    cases b with
    | real y => simp [sameKey, key?, asInt?, swapped]
    | bool q => cases p <;> cases q <;> simp [sameKey, key?, asInt?]
    | int n => cases p <;> simp [sameKey, key?, asInt?] <;> norm_cast
    | _ => simp [sameKey, key?, asInt?]
  | int m =>
    cases b with
    | real y => simp [sameKey, key?, asInt?, swapped]
    | bool q => cases q <;> simp [sameKey, key?, asInt?]
    | _ => simp [sameKey, key?, asInt?]
  | _ =>
    cases b with
    | real y => cases y <;> simp [sameKey, key?, asInt?, Binary64.key?]
    | _ => simp [sameKey, key?, asInt?, and_assoc]

/-- Being the same key goes both ways. -/
theorem sameKey_comm (a b : Document) : sameKey a b = sameKey b a := by
  -- Both stand for one thing, so either of them stands for something.
  rw [Bool.eq_iff_iff, sameKey_iff, sameKey_iff]
  constructor
  · rintro ⟨filled, same⟩
    exact ⟨same ▸ filled, same.symm⟩
  · rintro ⟨filled, same⟩
    exact ⟨same ▸ filled, same.symm⟩

/-- The same keys are the same as any third one, or neither is. -/
theorem sameKey_congr {a b : Document} (same : sameKey a b = true) (c : Document) :
    sameKey a c = sameKey b c := by
  -- Only what the two stand for is asked, and that is the same.
  obtain ⟨filled, same⟩ := sameKey_iff.mp same
  rw [Bool.eq_iff_iff, sameKey_iff, sameKey_iff, same]

/-- Only a text is the same key as that text. -/
theorem sameKey_text_iff {key : Document} {name : String} :
    sameKey key (.text name) = true ↔ key = .text name := by
  cases key with
  | text other => simp [sameKey]
  | real x => cases x <;> simp [sameKey, asInt?]
  | _ => simp [sameKey, asInt?]

end Document

namespace Entries

/-- No two entries have the same key. -/
def Distinct (entries : Entries) : Prop :=
  (entries.map Prod.fst).Pairwise fun a b => Document.sameKey a b = false

/-- No entries at all are distinct. -/
theorem distinct_nil : Distinct [] := .nil

/-- A key has the value that it is given, and every other key has the value that it had. -/
theorem find?_insert (key value other : Document) (entries : Entries) :
    find? other (insert key value entries) =
      if Document.sameKey other key then some value else find? other entries := by
  -- The induction is on the entries, up to the one that is replaced.
  induction entries with
  | nil => rfl
  | cons entry rest ih =>
    obtain ⟨known, old⟩ := entry
    by_cases replaced : Document.sameKey key known = true
    · rw [insert, if_pos replaced, find?, find?]
      -- The key that is replaced is the one that is given.
      rw [Document.sameKey_comm other known,
        ← Document.sameKey_congr replaced, Document.sameKey_comm key other]
      split <;> rfl
    · rw [insert, if_neg replaced, find?, find?, ih]
      by_cases asked : Document.sameKey other known = true
      · -- The key asked for comes earlier, so it is not the one that is given.
        have apart : ¬ Document.sameKey other key = true := by
          rw [Document.sameKey_congr asked, Document.sameKey_comm]
          exact replaced
        rw [if_pos asked, if_neg apart, if_pos asked]
      · rw [if_neg asked, if_neg asked]

/-- A key that no entry has is not found. -/
theorem find?_eq_none {key : Document} {entries : Entries}
    (absent : ∀ entry ∈ entries, Document.sameKey key entry.1 = false) :
    find? key entries = none := by
  induction entries with
  | nil => rfl
  | cons entry rest ih =>
    obtain ⟨first, later⟩ := List.forall_mem_cons.mp absent
    rw [find?, if_neg (by simp [first]), ih later]

/-- A value that is found is that of an entry. -/
theorem exists_mem_of_find? {key value : Document} {entries : Entries}
    (found : find? key entries = some value) : ∃ known, (known, value) ∈ entries := by
  induction entries with
  | nil => cases found
  | cons entry rest ih =>
    obtain ⟨known, held⟩ := entry
    rw [find?] at found
    split at found
    · -- The first entry with the key is the one whose value is found.
      cases found
      exact ⟨known, List.mem_cons_self⟩
    · obtain ⟨other, member⟩ := ih found
      exact ⟨other, List.mem_cons_of_mem _ member⟩

/-- Entries laid over others win where both have a key. -/
theorem find?_update {other : Entries} (distinct : other.Distinct) (key : Document)
    (entries : Entries) :
    find? key (update entries other) = (find? key other).or (find? key entries) := by
  -- The entries change with each one that is laid over them.
  induction other generalizing entries with
  | nil => rfl
  | cons entry rest ih =>
    obtain ⟨known, value⟩ := entry
    obtain ⟨apart, distinct⟩ := List.pairwise_cons.mp distinct
    have step : update entries ((known, value) :: rest) =
        update (insert known value entries) rest := rfl
    rw [step, ih distinct, find?_insert, find?]
    split
    · -- No later entry has the key of this one.
      rename_i asked
      have later : find? key rest = none :=
        find?_eq_none fun entry member => by
          rw [Document.sameKey_congr asked]
          exact apart entry.1 (List.mem_map_of_mem member)
      rw [later]
      rfl
    · rfl

/-- Every entry was there before or has the value that is given. -/
theorem mem_insert {key value : Document} {entries : Entries} {entry : Document × Document}
    (member : entry ∈ insert key value entries) : entry ∈ entries ∨ entry.2 = value := by
  induction entries with
  | nil =>
    rw [insert, List.mem_singleton] at member
    exact .inr (by rw [member])
  | cons first rest ih =>
    obtain ⟨known, old⟩ := first
    rw [insert] at member
    split at member
    · -- The value is replaced in its place.
      rcases List.mem_cons.mp member with rfl | later
      · exact .inr rfl
      · exact .inl (List.mem_cons_of_mem _ later)
    · rcases List.mem_cons.mp member with rfl | later
      · exact .inl List.mem_cons_self
      · exact (ih later).imp_left (List.mem_cons_of_mem _)

/-- Giving a key a value leaves the keys, or adds the key at the end if no entry has it. -/
theorem keys_insert (key value : Document) (entries : Entries) :
    (insert key value entries).map Prod.fst = entries.map Prod.fst ∨
      (insert key value entries).map Prod.fst = entries.map Prod.fst ++ [key] ∧
        ∀ known ∈ entries.map Prod.fst, Document.sameKey known key = false := by
  -- An entry that has the key keeps it as it was written first.
  induction entries with
  | nil => exact .inr ⟨rfl, by simp⟩
  | cons first rest ih =>
    obtain ⟨known, old⟩ := first
    rw [insert]
    split
    · -- The entry has the key, and only its value changes.
      exact .inl rfl
    · -- The key is added behind this entry or replaced there.
      rename_i apart
      rcases ih with same | ⟨added, absent⟩
      · exact .inl (by rw [List.map_cons, List.map_cons, same])
      · refine .inr ⟨by rw [List.map_cons, List.map_cons, added, List.cons_append], ?_⟩
        rw [Document.sameKey_comm, Bool.not_eq_true] at apart
        exact List.forall_mem_cons.mpr ⟨apart, absent⟩

/-- A key that is given a value does not come twice. -/
theorem Distinct.insert {entries : Entries} (distinct : entries.Distinct) (key value : Document) :
    Distinct (Entries.insert key value entries) := by
  unfold Distinct at distinct ⊢
  rcases keys_insert key value entries with same | ⟨added, absent⟩
  · rw [same]
    exact distinct
  · -- The new key comes last, and it is none of those before it.
    rw [added, List.pairwise_append]
    refine ⟨distinct, List.pairwise_singleton _ _, ?_⟩
    intro known member last only
    rw [List.mem_singleton.mp only]
    exact absent known member

/-- Laying entries over distinct ones leaves them distinct. -/
theorem Distinct.update {entries : Entries} (distinct : entries.Distinct) (other : Entries) :
    Distinct (Entries.update entries other) := by
  -- One entry after the other is given to the mapping.
  induction other generalizing entries with
  | nil => exact distinct
  | cons entry rest ih => exact ih (distinct.insert entry.1 entry.2)

/-- A key that no entry has is added at the end. -/
theorem insert_new {key : Document} {entries : Entries}
    (absent : ∀ entry ∈ entries, Document.sameKey key entry.1 = false) (value : Document) :
    Entries.insert key value entries = entries ++ [(key, value)] := by
  -- No entry is replaced on the way to the end.
  induction entries with
  | nil => rfl
  | cons entry rest ih =>
    obtain ⟨first, later⟩ := List.forall_mem_cons.mp absent
    rw [insert, if_neg (by simp [first]), ih later, List.cons_append]

/-- Distinct entries replace none of each other. -/
theorem ofList_of_distinct {entries : Entries} (distinct : entries.Distinct) :
    ofList entries = entries := by
  -- The entries laid down so far and those to come are the same ones all along.
  have general : ∀ (later before : Entries), Distinct (before ++ later) →
      update before later = before ++ later := by
    intro later
    induction later with
    | nil => exact fun before _ => (List.append_nil before).symm
    | cons entry rest ih =>
      intro before distinct
      obtain ⟨key, value⟩ := entry
      have absent : ∀ entry ∈ before, Document.sameKey key entry.1 = false := by
        intro entry member
        rw [Document.sameKey_comm]
        unfold Distinct at distinct
        rw [List.map_append, List.pairwise_append] at distinct
        exact distinct.2.2 _ (List.mem_map_of_mem member) _ List.mem_cons_self
      have step : update before ((key, value) :: rest) =
          update (insert key value before) rest := rfl
      rw [step, insert_new absent, ih _ (by simpa using distinct), List.append_assoc,
        List.singleton_append]
  exact general entries [] distinct

end Entries

end ImportOrder
