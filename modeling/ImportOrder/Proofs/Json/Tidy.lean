import ImportOrder.Json.Reader
import ImportOrder.Proofs.Document.Keys

/-! What is read from JSON is tidy: no mapping in it, however deep, has a key twice. -/

namespace ImportOrder

/-- Two steps end well only if both do. -/
theorem bind_eq_ok {ε α β : Type} {first : Except ε α} {next : α → Except ε β} {result : β}
    (done : (first >>= next) = .ok result) : ∃ value, first = .ok value ∧ next value = .ok result := by
  cases first with
  | error error => cases done
  | ok value => exact ⟨value, rfl, done⟩

/-- No mapping in a document, however deep, has a key twice. -/
inductive Document.Tidy : Document → Prop
  -- What can be a key holds no mapping.
  | scalar {value : Document} (single : value.canBeKey = true) : Tidy value
  | list {items : List Document} (each : ∀ item ∈ items, Tidy item) : Tidy (.list items)
  | mapping {entries : Entries} (distinct : entries.Distinct)
      (each : ∀ entry ∈ entries, Tidy entry.2) : Tidy (.mapping entries)

/-- Entries of which a later value replaces an earlier one make a tidy mapping. -/
theorem Document.tidy_ofList {entries : List (Document × Document)}
    (each : ∀ entry ∈ entries, entry.2.Tidy) : (Document.mapping (Entries.ofList entries)).Tidy := by
  -- Each entry is added to those before it, which are tidy already.
  have general : ∀ before : Entries, before.Distinct → (∀ entry ∈ before, entry.2.Tidy) →
      (Document.mapping (Entries.update before entries)).Tidy := by
    induction entries with
    | nil =>
      intro before distinct tidy
      exact .mapping distinct tidy
    | cons entry rest ih =>
      intro before distinct tidy
      obtain ⟨first, later⟩ := List.forall_mem_cons.mp each
      -- Adding an entry replaces the value of its key or puts the key behind the others.
      apply ih later _ (distinct.insert entry.1 entry.2)
      intro other member
      rcases Entries.mem_insert member with old | given
      · exact tidy other old
      · rw [given]
        exact first
  exact general [] Entries.distinct_nil (by simp)

namespace Json

/-- The words stand for scalars. -/
theorem readWord?_scalar {text rest : Text} {value : Document}
    (found : readWord? text = some (value, rest)) : value.canBeKey = true := by
  -- There are six words, and none of them opens a list or an object.
  have scalars : ∀ word ∈ words, word.2.canBeKey = true := by decide
  obtain ⟨word, member, read⟩ := List.exists_of_findSome?_eq_some found
  obtain ⟨after, -, same⟩ := Option.map_eq_some_iff.mp read
  rw [← (Prod.mk.inj same).1]
  exact scalars word member

/-- Numbers are scalars. -/
theorem readNumber_scalar {text rest : Text} {value : Document}
    (read : readNumber text = .ok (value, rest)) : value.canBeKey = true := by
  -- The reader fails where there are no digits, and where a whole number has too many of them.
  unfold readNumber at read
  dsimp only at read
  split at read
  · contradiction
  · -- With an exponent or a fraction the number is a real one, and else it is whole.
    split at read
    · cases read
      rfl
    · split at read
      · -- A whole number of too many digits is refused.
        split at read
        · contradiction
        · cases read
          rfl
      · cases read
        rfl

/-- What is read with some fuel is tidy: a value, all items of a list, and all values of an
object. -/
theorem read_tidy_of_fuel (fuel : Nat) :
    (∀ text value rest, readValue fuel text = .ok (value, rest) → value.Tidy) ∧
    (∀ text items rest, readItems fuel text = .ok (items, rest) → ∀ item ∈ items, item.Tidy) ∧
    ∀ text entries rest, readEntries fuel text = .ok (entries, rest) →
      ∀ entry ∈ entries, entry.2.Tidy := by
  -- The three readers call each other with less fuel, so one induction serves them all.
  induction fuel with
  | zero =>
    refine ⟨?_, ?_, ?_⟩ <;> intro text value rest read <;>
      simp [readValue, readItems, readEntries, stop] at read
  | succ fuel ih =>
    obtain ⟨ih_value, ih_items, ih_entries⟩ := ih
    refine ⟨?_, ?_, ?_⟩
    · -- The first character tells a string, an object and a list from all else.
      intro text value rest read
      unfold readValue at read
      split at read
      · contradiction
      · obtain ⟨⟨body, after⟩, -, read⟩ := bind_eq_ok read
        cases read
        exact .scalar rfl
      · rename_i fuel' inside same
        obtain rfl := Nat.succ.inj same
        split at read
        · cases read
          exact .mapping Entries.distinct_nil (by simp)
        · -- The entries may repeat a key, but the mapping made of them does not.
          obtain ⟨⟨entries, after⟩, inner, read⟩ := bind_eq_ok read
          cases read
          exact Document.tidy_ofList (ih_entries _ _ _ inner)
      · rename_i fuel' inside same
        obtain rfl := Nat.succ.inj same
        split at read
        · cases read
          exact .list (by simp)
        · obtain ⟨⟨items, after⟩, inner, read⟩ := bind_eq_ok read
          cases read
          exact .list (ih_items _ _ _ inner)
      · split at read
        · rename_i found
          cases read
          exact .scalar (readWord?_scalar found)
        · exact .scalar (readNumber_scalar read)
    · -- The first item, and those behind a comma.
      intro text items rest read
      unfold readItems at read
      obtain ⟨⟨item, after⟩, inner, read⟩ := bind_eq_ok read
      have first : item.Tidy := ih_value _ _ _ inner
      dsimp only at read
      split at read
      · cases read
        exact List.forall_mem_singleton.mpr first
      · obtain ⟨⟨others, after'⟩, more, read⟩ := bind_eq_ok read
        cases read
        exact List.forall_mem_cons.mpr ⟨first, ih_items _ _ _ more⟩
      · cases read
    · -- The same for entries, whose names say nothing here.
      intro text entries rest read
      unfold readEntries at read
      split at read
      · cases read
      · rename_i fuel' inside same
        obtain rfl := Nat.succ.inj same
        obtain ⟨⟨name, after⟩, -, read⟩ := bind_eq_ok read
        dsimp only at read
        split at read
        · obtain ⟨⟨value, after'⟩, inner, read⟩ := bind_eq_ok read
          have first : value.Tidy := ih_value _ _ _ inner
          dsimp only at read
          split at read
          · cases read
            exact List.forall_mem_singleton.mpr first
          · obtain ⟨⟨others, after''⟩, more, read⟩ := bind_eq_ok read
            cases read
            exact List.forall_mem_cons.mpr ⟨first, ih_entries _ _ _ more⟩
          · cases read
        · cases read
      · cases read

/-- What is read from a text is tidy. -/
theorem read_tidy {text : Text} {value : Document} (done : read text = .ok value) :
    value.Tidy := by
  -- White space in front is passed over, and what is read has to be the whole text.
  unfold read at done
  dsimp only at done
  split at done
  · cases done
  · split at done
    · cases done
    · rename_i value' rest found
      -- The value is kept if nothing but blanks comes behind it.
      split at done
      · cases done
        exact (read_tidy_of_fuel _).1 _ _ _ found
      · cases done

end Json

end ImportOrder
