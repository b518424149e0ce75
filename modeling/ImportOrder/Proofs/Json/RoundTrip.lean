import ImportOrder.Json.Writer
import ImportOrder.Proofs.Document.Keys
import ImportOrder.Proofs.Json.Decoding
import ImportOrder.Proofs.Text.Utf8
import ImportOrder.Settings.Builtin

/-! What is written on one line reads back as the document it came from, unless a whole number in it
has more digits than are read. The line holds printable ASCII characters only. -/

namespace ImportOrder.Json

section Codes

/-- One digit more shows what a division by the base leaves. -/
theorem hexDigits_succ {width : Nat} (some_digit : 0 < width) (n : Nat) :
    hexDigits (width + 1) n = hexDigits width (n / 16) ++ [Nat.digitChar (n % 16)] := by
  simp only [hexDigits]
  by_cases small : n < 16
  · -- A single digit stands behind zeros only.
    have none : n / 16 = 0 := by omega
    have self : n % 16 = n := by omega
    rw [none, self, Nat.toDigits_of_lt_base small, Nat.toDigits_zero]
    show List.replicate width '0' ++ [Nat.digitChar n] =
      List.replicate (width - 1) '0' ++ ['0'] ++ [Nat.digitChar n]
    rw [← List.replicate_succ', Nat.sub_add_cancel some_digit]
  · -- Both sides grow by the last digit, and as many zeros are left as before.
    rw [Nat.toDigits_of_base_le (by omega) (Nat.le_of_not_lt small), List.length_append,
      List.length_singleton, Nat.add_sub_add_right, List.append_assoc]

/-- The digit with a value below sixteen. -/
def HexDigit.ofNat (value : Nat) (small : value < 16) : HexDigit where
  char := Nat.digitChar value
  value := value
  means := by
    have table : ∀ value < 16, hexValue? (Nat.digitChar value) = some value := by decide
    exact table value small

/-- The four digits of a number of sixteen bits. -/
def HexCode.ofNat (n : Nat) (small : n < 0x10000) : HexCode where
  first := .ofNat (n / 16 / 16 / 16) (by omega)
  second := .ofNat (n / 16 / 16 % 16) (by omega)
  third := .ofNat (n / 16 % 16) (by omega)
  fourth := .ofNat (n % 16) (by omega)

theorem HexCode.value_ofNat {n : Nat} (small : n < 0x10000) :
    (HexCode.ofNat n small).value = n := by
  simp only [HexCode.value, HexCode.ofNat, HexDigit.ofNat]
  omega

/-- A number is escaped as its four digits. -/
theorem numbered_eq {n : Nat} (small : n < 0x10000) :
    numbered n = (StringPart.numbered (.ofNat n small)).text := by
  rw [numbered, hexDigits_succ (by omega), hexDigits_succ (by omega), hexDigits_succ (by omega),
    hexDigits, Nat.toDigits_of_lt_base (show n / 16 / 16 / 16 < 16 by omega)]
  rfl

end Codes

section Strings

/-- A numbered escape that is no leading half stands for its own character. -/
theorem StringLiteral.value_numbered {code : HexCode} (whole : isHighHalf code.value = false)
    (rest : StringLiteral) :
    StringLiteral.value (.numbered code :: rest) =
      charOf code.value :: StringLiteral.value rest := by
  -- Two escapes are joined only if the first of them is a leading half.
  cases rest with
  | nil => rfl
  | cons part rest =>
    cases part with
    | numbered low => simp [StringLiteral.value, whole]
    | plain | short => rfl

/-- Some parts of a string literal are written as a text and stand for a character, whatever follows
them. -/
def Spelt (c : Char) (text : Text) : Prop :=
  -- What follows must not be joined with the last part, so the rest is arbitrary.
  ∃ parts : StringLiteral, StringLiteral.body parts = text ∧
    ∀ rest : StringLiteral, StringLiteral.value (parts ++ rest) = c :: StringLiteral.value rest

theorem spelt_short {letter c : Char} (known : (letter, c) ∈ shortEscapes) :
    Spelt c ['\\', letter] :=
  ⟨[.short (letter, c) known], rfl, fun _ => rfl⟩

theorem spelt_plain {c : Char} (unquoted : c ≠ '"') (unescaped : c ≠ '\\')
    (printing : 0x20 ≤ c.toNat) : Spelt c [c] :=
  ⟨[.plain c unquoted unescaped printing], rfl, fun _ => rfl⟩

/-- A character of the first plane is its own number. -/
theorem spelt_numbered {c : Char} (small : c.toNat < 0x10000) : Spelt c (numbered c.toNat) := by
  -- No character is half of another one.
  have valid := Utf8.toNat_valid c
  have low : isHighHalf c.toNat = false := by simp [isHighHalf]; omega
  have high : isLowHalf c.toNat = false := by simp [isLowHalf]; omega
  refine ⟨[.numbered (.ofNat c.toNat small)], ?_, ?_⟩
  · rw [numbered_eq small]
    exact List.append_nil _
  · intro rest
    rw [List.singleton_append, StringLiteral.value_numbered (by rw [HexCode.value_ofNat, low]),
      HexCode.value_ofNat, charOf, low, high]
    simp

/-- A character beyond the first plane is the two halves of its number. -/
theorem spelt_halves {c : Char} (large : 0x10000 ≤ c.toNat) :
    Spelt c (numbered (0xD800 + (c.toNat - 0x10000) / 0x400) ++
      numbered (0xDC00 + (c.toNat - 0x10000) % 0x400)) := by
  have valid := Utf8.toNat_valid c
  have first : 0xD800 + (c.toNat - 0x10000) / 0x400 < 0x10000 := by omega
  have second : 0xDC00 + (c.toNat - 0x10000) % 0x400 < 0x10000 := by omega
  refine ⟨[.numbered (.ofNat _ first), .numbered (.ofNat _ second)], ?_, ?_⟩
  · rw [numbered_eq first, numbered_eq second]
    simp [StringLiteral.body]
  · intro rest
    have high : isHighHalf (0xD800 + (c.toNat - 0x10000) / 0x400) = true := by
      simp [isHighHalf]; omega
    have low : isLowHalf (0xDC00 + (c.toNat - 0x10000) % 0x400) = true := by
      simp [isLowHalf]; omega
    -- What the halves carry is quotient and remainder of one division.
    have joined : 0x10000 + (0xD800 + (c.toNat - 0x10000) / 0x400 - 0xD800) * 0x400 +
        (0xDC00 + (c.toNat - 0x10000) % 0x400 - 0xDC00) = c.toNat := by omega
    simp only [List.cons_append, List.nil_append, StringLiteral.value, HexCode.value_ofNat, high,
      low, joinHalves, joined, Char.ofNat_toNat]
    rfl

/-- A character is escaped by parts that stand for it. -/
theorem spelt_escapeChar (c : Char) : Spelt c (escapeChar c) := by
  -- The cases are the ways of escaping, in the order in which they are tried.
  fun_cases escapeChar c with
  | case1 marked =>
    rcases (Bool.or_eq_true _ _).mp marked with quote | slash
    · obtain rfl := eq_of_beq quote
      exact spelt_short (by decide)
    · obtain rfl := eq_of_beq slash
      exact spelt_short (by decide)
  | case2 _ newline =>
    obtain rfl := eq_of_beq newline
    exact spelt_short (by decide)
  | case3 _ _ home =>
    obtain rfl := eq_of_beq home
    exact spelt_short (by decide)
  | case4 _ _ _ tab =>
    obtain rfl := eq_of_beq tab
    exact spelt_short (by decide)
  | case5 _ _ _ _ back =>
    obtain rfl : Char.ofNat 8 = c := by rw [← eq_of_beq back, Char.ofNat_toNat]
    exact spelt_short (by decide)
  | case6 _ _ _ _ _ feed =>
    obtain rfl : Char.ofNat 12 = c := by rw [← eq_of_beq feed, Char.ofNat_toNat]
    exact spelt_short (by decide)
  | case7 unmarked _ _ _ _ _ printing =>
    simp only [Bool.or_eq_true, beq_iff_eq, not_or] at unmarked
    simp only [Bool.and_eq_true, decide_eq_true_eq] at printing
    exact spelt_plain unmarked.1 unmarked.2 printing.1
  | case8 _ _ _ _ _ _ _ small => exact spelt_numbered small
  | case9 _ _ _ _ _ _ _ large beyond => exact spelt_halves (Nat.le_of_not_lt large)

/-- A text is written as a string literal that stands for it. -/
theorem exists_literal (text : Text) : ∃ literal : StringLiteral,
    literal.text = writeString text ∧ literal.value = text := by
  -- The literal is put together from the parts of its characters, the first of them in front.
  have bodies : ∃ literal : StringLiteral,
      literal.body = text.flatMap escapeChar ∧ literal.value = text := by
    induction text with
    | nil => exact ⟨[], rfl, rfl⟩
    | cons c rest ih =>
      obtain ⟨parts, written, stands⟩ := spelt_escapeChar c
      obtain ⟨literal, body, value⟩ := ih
      refine ⟨parts ++ literal, ?_, by rw [stands, value]⟩
      rw [List.flatMap_cons, ← written, ← body]
      exact List.flatMap_append
  obtain ⟨literal, body, value⟩ := bodies
  exact ⟨literal, by rw [StringLiteral.text, body, writeString], value⟩

end Strings

section Numbers

/-- A positive number starts with no zero. -/
theorem head_toDigits {n : Nat} (positive : 0 < n) : (Nat.toDigits 10 n).head? ≠ some '0' := by
  -- Dividing by ten keeps the first digit, down to a single one.
  induction n using Nat.strongRecOn with
  | ind n ih =>
    by_cases small : n < 10
    · -- A single digit is its own value.
      rw [Nat.toDigits_of_lt_base small]
      have table : ∀ n < 10, 0 < n → [Nat.digitChar n].head? ≠ some '0' := by decide
      exact table n small positive
    · rw [Nat.toDigits_of_base_le (by omega) (Nat.le_of_not_lt small),
        List.head?_append_of_ne_nil _ Nat.toDigits_ne_nil]
      exact ih (n / 10) (by omega) (by omega)

/-- A whole number is its digits, behind a minus if it is negative. -/
theorem toList_toString (value : Int) : (toString value).toList =
    (if decide (value < 0) then ['-'] else []) ++ Nat.toDigits 10 value.natAbs := by
  cases value with
  | ofNat n =>
    show (toString n).toList = _
    rw [Nat.toString_eq_ofList_toDigits]
    simp
  | negSucc n =>
    show ("-" ++ toString (n + 1)).toList = _
    rw [Nat.toString_eq_ofList_toDigits]
    simp [Int.negSucc_lt_zero]

/-- The digits of a number are read as that number. -/
theorem natOf_toDigits (n : Nat) : natOf (Nat.toDigits 10 n) = n :=
  Nat.ofDigitChars_ten_toDigits

/-- What is read where some whole numbers are written: nothing if one of them is too long. -/
def held {α : Type} (numbers : List Int) (value : α) : Option α :=
  if ∀ n ∈ numbers, n.natAbs < 10 ^ maxIntegerDigits then some value else none

/-- A whole number is written as a literal that stands for it, if it is short enough. -/
theorem exists_number (value : Int) : ∃ number : NumberLiteral,
    number.text = (toString value).toList ∧ number.value? = held [value] (.int value) := by
  -- The digits of the literal are those of the number, and there is always a first one.
  obtain ⟨lead, others, digits⟩ := List.exists_cons_of_ne_nil
    (Nat.toDigits_ne_nil (n := value.natAbs) (b := 10))
  have all : ∀ c ∈ lead :: others, c.isDigit = true := by
    rw [← digits]
    exact fun c member => Nat.isDigit_of_mem_toDigits (by omega) (by omega) member
  have zero : lead = '0' → others = [] := by
    rintro rfl
    -- Only zero starts with a zero.
    have none : value.natAbs = 0 := by
      by_contra some_unit
      have head := head_toDigits (Nat.pos_of_ne_zero some_unit)
      simp [digits] at head
    rw [none, Nat.toDigits_zero] at digits
    exact (List.cons.inj digits).2.symm
  -- There is neither a fraction nor an exponent, so the literal is a whole number.
  refine ⟨⟨decide (value < 0), lead, others, [], none, all _ List.mem_cons_self, zero,
    fun c member => all c (List.mem_cons_of_mem _ member), fun c member => nomatch member⟩, ?_, ?_⟩
  · rw [toList_toString, digits]
    simp [NumberLiteral.text, NumberLiteral.whole, NumberLiteral.fractionText,
      NumberLiteral.exponentText]
  · -- What is counted in reading is the digits, so the bound on them is a bound on the number.
    have short : ¬ maxIntegerDigits < (lead :: others).length ↔
        value.natAbs < 10 ^ maxIntegerDigits := by
      rw [← digits, Nat.not_lt]
      exact Nat.length_toDigits_le_iff (by omega) (by decide)
    have signed : (if value < 0 then -(natOf (lead :: others) : Int) else natOf (lead :: others)) =
        value := by
      rw [← digits, natOf_toDigits]
      omega
    simp only [NumberLiteral.value?, NumberLiteral.whole, List.isEmpty_nil, if_true, held,
      List.forall_mem_singleton, ← short, decide_eq_true_eq, signed, ite_not]

/-- The numbers of two parts are short enough if those of either part are. -/
theorem held_append {α β γ : Type} (numbers others : List Int) (first : α) (second : β)
    (join : α → β → γ) : held (numbers ++ others) (join first second) =
      (held numbers first).bind fun value => (held others second).map (join value) := by
  simp only [held, List.forall_mem_append]
  -- If a number of either part is too long, nothing is read of the whole.
  split
  · rename_i both
    rw [if_pos both.1, if_pos both.2]
    rfl
  · rename_i missed
    split
    · rename_i short
      rw [if_neg fun more => missed ⟨short, more⟩]
      rfl
    · rfl

theorem held_map {α β : Type} (numbers : List Int) (value : α) (f : α → β) :
    (held numbers value).map f = held numbers (f value) := by
  unfold held
  split <;> rfl

end Numbers

section Documents

mutual

/-- The whole numbers in a document. -/
def numbers : Document → List Int
  | .int value => [value]
  | .list items => itemNumbers items
  -- Keys count for nothing here: they are texts.
  | .mapping entries => entryNumbers entries
  | _ => []

/-- The whole numbers in the items of a list. -/
def itemNumbers : List Document → List Int
  | [] => []
  | item :: rest => numbers item ++ itemNumbers rest

/-- The whole numbers in the values of a mapping. -/
def entryNumbers : List (Document × Document) → List Int
  | [] => []
  | (_, value) :: rest => numbers value ++ entryNumbers rest

end

/-- A document that JSON has a form of its own for: no fractions and no dates, and every mapping has
texts as keys, none of them twice. -/
inductive Portable : Document → Prop
  | null : Portable .null
  | bool (value : Bool) : Portable (.bool value)
  | int (value : Int) : Portable (.int value)
  | text (value : String) : Portable (.text value)
  | list {items : List Document} (each : ∀ item ∈ items, Portable item) : Portable (.list items)
  -- A name that came twice would be read as one entry.
  | mapping {entries : Entries} (named : ∀ entry ∈ entries, ∃ name, entry.1 = .text name)
      (distinct : entries.Distinct) (each : ∀ entry ∈ entries, Portable entry.2) :
      Portable (.mapping entries)

/-- A section of settings under different names is such a document if its values are. -/
theorem portable_table {entries : List (String × Document)}
    (names : (entries.map Prod.fst).Nodup) (each : ∀ entry ∈ entries, Portable entry.2) :
    Portable (Settings.table entries) := by
  refine .mapping ?_ ?_ ?_
  · exact List.forall_mem_map.mpr fun entry _ => ⟨entry.1, rfl⟩
  · -- Names that differ as strings are keys that differ.
    unfold Entries.Distinct
    rw [List.map_map, List.pairwise_map]
    refine (List.pairwise_map.mp names).imp fun differ => ?_
    simpa [Document.sameKey] using differ
  · exact List.forall_mem_map.mpr each

/-- A plain form of a document that is written on one line as the document is, and whose value it
is. -/
structure Writes (written : Written) (document : Document) : Prop where
  plain : written.plain = line document
  -- A document is written whatever its numbers are, but it is read only if none is too long.
  value? : written.value? = held (numbers document) document

/-- The name and the value of an entry as they are written. -/
structure WritesEntry (written : StringLiteral × Written) (entry : Document × Document) : Prop where
  key : entry.1 = entryKey written.1
  name : written.1.text = writeString (keyName entry.1)
  value : Writes written.2 entry.2

theorem writeItems_single (item : Document) : writeItems .compact [item] = line item := by
  rw [writeItems]
  rfl

theorem writeItems_cons (item next : Document) (more : List Document) :
    writeItems .compact (item :: next :: more) =
      line item ++ ',' :: writeItems .compact (next :: more) := by
  rw [writeItems]
  · rfl
  · simp

/-- The items of a list are written with commas between them. -/
theorem plain_items {written : List Written} {items : List Document}
    (each : List.Forall₂ Writes written items) :
    ((itemTokens false written).filter Token.plain).flatMap Token.text =
      writeItems .compact items := by
  -- Tokens and writer alike tell the last item from those that others follow.
  induction each with
  | nil => simp [itemTokens, writeItems]
  | cons first later ih =>
    cases later with
    | nil =>
      rw [plain_itemTokens_single, writeItems_single]
      exact first.plain
    | cons next more =>
      rw [plain_itemTokens_cons, List.flatMap_append, List.flatMap_cons, ih, writeItems_cons,
        ← first.plain]
      rfl

theorem itemValues?_of_writes {written : List Written} {items : List Document}
    (each : List.Forall₂ Writes written items) :
    itemValues? written = held (itemNumbers items) items := by
  induction each with
  | nil => simp [itemValues?, itemNumbers, held]
  | cons first later ih => rw [itemValues?_cons, first.value?, ih, itemNumbers, held_append]

theorem writeEntries_single (key value : Document) :
    writeEntries .compact [(key, value)] = writeString (keyName key) ++ ':' :: line value := by
  rw [writeEntries]
  simp [Layout.lineStart, Layout.colon, line]

theorem writeEntries_cons (key value : Document) (next : Document × Document) (more : Entries) :
    writeEntries .compact ((key, value) :: next :: more) =
      writeString (keyName key) ++
        ':' :: (line value ++ ',' :: writeEntries .compact (next :: more)) := by
  rw [writeEntries]
  · simp [Layout.lineStart, Layout.colon, line]
  · simp

/-- The entries of an object are written with commas between them. -/
theorem plain_entries {written : List (StringLiteral × Written)} {entries : Entries}
    (each : List.Forall₂ WritesEntry written entries) :
    ((entryTokens false written).filter Token.plain).flatMap Token.text =
      writeEntries .compact entries := by
  -- An entry is a name and a colon more than an item.
  induction each with
  | nil => simp [entryTokens, writeEntries]
  | @cons form entry others rest first later ih =>
    obtain ⟨name, value⟩ := form
    obtain ⟨key, document⟩ := entry
    cases later with
    | nil =>
      rw [plain_entryTokens_single, writeEntries_single, ← first.name, ← first.value.plain]
      rfl
    | cons next more =>
      rw [plain_entryTokens_cons, List.flatMap_cons, List.flatMap_cons, List.flatMap_append,
        List.flatMap_cons, ih, writeEntries_cons, ← first.name, ← first.value.plain]
      rfl

theorem entryValues?_of_writes {written : List (StringLiteral × Written)} {entries : Entries}
    (each : List.Forall₂ WritesEntry written entries) :
    entryValues? written = held (entryNumbers entries) entries := by
  induction each with
  | nil => simp [entryValues?, entryNumbers, held]
  | @cons form entry others rest first later ih =>
    obtain ⟨name, value⟩ := form
    obtain ⟨key, document⟩ := entry
    obtain rfl : key = entryKey name := first.key
    rw [entryValues?_cons, first.value.value?, ih, entryNumbers]
    exact (held_append _ _ _ _ fun value values => (entryKey name, value) :: values).symm

theorem line_list (items : List Document) :
    line (.list items) = '[' :: writeItems .compact items ++ [']'] := by
  -- A list without items is written by a case of its own, with the same result.
  cases items with
  | nil => simp [line, write, writeItems]
  | cons item rest =>
    rw [line, write]
    · simp [Layout.deeper, Layout.lineStart]
    · simp

theorem line_mapping (entries : Entries) :
    line (.mapping entries) = '{' :: writeEntries .compact entries ++ ['}'] := by
  cases entries with
  | nil => simp [line, write, writeEntries]
  | cons entry rest =>
    rw [line, write]
    · simp [Layout.deeper, Layout.lineStart]
    · simp

theorem Writes.scalar {scalar : Scalar} {document : Document} (text : scalar.text = line document)
    (value : scalar.value? = held (numbers document) document) :
    Writes (.scalar scalar) document where
  plain := by
    rw [Written.plain, Written.plainTokens, Written.tokens, ← text]
    exact List.append_nil _
  value? := by rw [Written.value?, value]

theorem Writes.list {written : List Written} {items : List Document}
    (each : List.Forall₂ Writes written items) : Writes (.list written false) (.list items) where
  plain := by
    rw [line_list, ← plain_items each, Written.plain, Written.plainTokens_list, List.flatMap_cons,
      List.flatMap_append]
    rfl
  value? := by
    rw [Written.value?, itemValues?_of_writes each, numbers, held_map]

theorem Writes.object {written : List (StringLiteral × Written)} {entries : Entries}
    (distinct : entries.Distinct) (each : List.Forall₂ WritesEntry written entries) :
    Writes (.object written false) (.mapping entries) where
  plain := by
    rw [line_mapping, ← plain_entries each, Written.plain, Written.plainTokens_object,
      List.flatMap_cons, List.flatMap_append]
    rfl
  value? := by
    rw [Written.value?, entryValues?_of_writes each, numbers, held_map,
      Entries.ofList_of_distinct distinct]

/-- A choice for each member of a list is a list of choices. -/
theorem exists_forall₂ {α β : Type} {R : α → β → Prop} {members : List β}
    (each : ∀ member ∈ members, ∃ choice, R choice member) :
    ∃ choices, List.Forall₂ R choices members := by
  induction members with
  | nil => exact ⟨[], .nil⟩
  | cons member rest ih =>
    obtain ⟨⟨choice, chosen⟩, later⟩ := List.forall_mem_cons.mp each
    obtain ⟨choices, others⟩ := ih later
    exact ⟨choice :: choices, .cons chosen others⟩

/-- The line of a document that JSON has a form for is such a form. -/
theorem exists_writes {document : Document} (portable : Portable document) :
    ∃ written, Writes written document := by
  -- A scalar is one token; the parts of a list and of a mapping have forms by induction.
  induction portable with
  | null => exact ⟨.scalar .null, .scalar (by simp [line, write, Scalar.text]) rfl⟩
  | bool value =>
    refine ⟨.scalar (.bool value), .scalar ?_ (by simp [Scalar.value?, numbers, held])⟩
    cases value <;> simp [line, write, Scalar.text]
  | int value =>
    obtain ⟨number, text, stands⟩ := exists_number value
    refine ⟨.scalar (.number number), .scalar ?_ ?_⟩
    · rw [Scalar.text, text, line, write]
    · rw [Scalar.value?, stands, numbers]
  | text value =>
    obtain ⟨literal, text, stands⟩ := exists_literal value.toList
    refine ⟨.scalar (.string literal), .scalar ?_ ?_⟩
    · rw [Scalar.text, text, line, write]
    · simp [Scalar.value?, stands, numbers, held]
  | list each ih =>
    obtain ⟨written, all⟩ := exists_forall₂ ih
    exact ⟨.list written false, .list all⟩
  | @mapping entries named distinct each ih =>
    -- The name and the value of an entry are written apart.
    have entryEach : ∀ entry ∈ entries, ∃ written, WritesEntry written entry := by
      intro entry member
      obtain ⟨name, key⟩ := named entry member
      obtain ⟨value, writes⟩ := ih entry member
      obtain ⟨literal, text, stands⟩ := exists_literal name.toList
      refine ⟨(literal, value), ?_, ?_, writes⟩
      · rw [key, entryKey, stands, String.ofList_toList]
      · rw [text, key, keyName]
    obtain ⟨written, all⟩ := exists_forall₂ entryEach
    exact ⟨.object written false, .object distinct all⟩

/-- White space may stand behind the last token. -/
theorem Spells.append {tokens : List Token} {text spaces : Text} (spelled : Spells tokens text)
    (blank : ∀ c ∈ spaces, isSpace c = true) : Spells tokens (text ++ spaces) := by
  -- White space may stand behind the tokens from the start, so the last step takes it in.
  induction spelled with
  | nil before => exact .nil (List.forall_mem_append.mpr ⟨before, blank⟩)
  | cons before _ ih =>
    rw [List.append_assoc, List.append_assoc]
    exact .cons before ih

/-- A line reads back as what is written on it, with or without white space behind it, if no number
on it is too long. -/
theorem read_line {document : Document} (portable : Portable document) {spaces : Text}
    (blank : ∀ c ∈ spaces, isSpace c = true) :
    (read (line document ++ spaces)).toOption = held (numbers document) document := by
  -- The line is a plain form of the document, and reading passes over the white space behind it.
  obtain ⟨written, writes⟩ := exists_writes portable
  have spelled : Spells written.plainTokens (line document ++ spaces) := by
    rw [← writes.plain]
    exact (spells_flatMap _).append blank
  rw [read_spelled spelled, writes.value?]

/-- Quotes, controls and what lies beyond ASCII are escaped, the last of them by two halves. -/
example : line (.list [.text "\"\n\x7f\u2028😀", .int (-10)]) =
    "[\"\\\"\\n\\u007f\\u2028\\ud83d\\ude00\",-10]".toList := by decide +kernel

end Documents

section Printing

/-- Every character of a text is a printable one of ASCII. -/
def Printing (text : Text) : Prop := ∀ c ∈ text, 0x20 ≤ c.toNat ∧ c.toNat < 0x7F

theorem printing_append {first second : Text} :
    Printing (first ++ second) ↔ Printing first ∧ Printing second :=
  List.forall_mem_append

theorem printing_cons {c : Char} {rest : Text} :
    Printing (c :: rest) ↔ (0x20 ≤ c.toNat ∧ c.toNat < 0x7F) ∧ Printing rest :=
  List.forall_mem_cons

instance (text : Text) : Decidable (Printing text) := List.decidableBAll _ text

theorem printing_numbered {n : Nat} (small : n < 0x10000) : Printing (numbered n) := by
  -- A backslash, a letter and four digits.
  have digit : ∀ value < 16,
      0x20 ≤ (Nat.digitChar value).toNat ∧ (Nat.digitChar value).toNat < 0x7F := by decide
  rw [numbered_eq small]
  simp only [StringPart.text, HexCode.text, HexCode.ofNat, HexDigit.ofNat, printing_cons]
  refine ⟨by decide, by decide, digit _ (by omega), digit _ (by omega), digit _ (by omega),
    digit _ (by omega), by decide⟩

/-- Whatever does not print is escaped by what does. -/
theorem printing_escapeChar (c : Char) : Printing (escapeChar c) := by
  have valid := Utf8.toNat_valid c
  -- The short escapes are fixed texts; the others are bounded by their numbers.
  fun_cases escapeChar c with
  | case1 marked =>
    rcases (Bool.or_eq_true _ _).mp marked with quote | slash
    · obtain rfl := eq_of_beq quote
      decide
    · obtain rfl := eq_of_beq slash
      decide
  | case7 _ _ _ _ _ _ printing => simpa [Printing] using printing
  | case8 _ _ _ _ _ _ _ small => exact printing_numbered small
  | case9 =>
    exact printing_append.mpr ⟨printing_numbered (by omega), printing_numbered (by omega)⟩
  | _ => decide

theorem printing_writeString (text : Text) : Printing (writeString text) := by
  have body : Printing (text.flatMap escapeChar) := by
    intro c member
    obtain ⟨source, -, found⟩ := List.mem_flatMap.mp member
    exact printing_escapeChar source c found
  exact printing_append.mpr ⟨printing_cons.mpr ⟨by decide, body⟩, by decide⟩

theorem printing_toString (value : Int) : Printing (toString value).toList := by
  rw [toList_toString]
  refine printing_append.mpr ⟨by split <;> decide, ?_⟩
  intro c member
  have digit := toNat_of_isDigit (Nat.isDigit_of_mem_toDigits (by omega) (by omega) member)
  omega

theorem printing_items {items : List Document} (each : ∀ item ∈ items, Printing (line item)) :
    Printing (writeItems .compact items) := by
  -- As in writing, an item with others behind it has a comma.
  induction items with
  | nil => simp [writeItems, Printing]
  | cons item rest ih =>
    obtain ⟨first, later⟩ := List.forall_mem_cons.mp each
    cases rest with
    | nil => rwa [writeItems_single]
    | cons next more =>
      rw [writeItems_cons]
      exact printing_append.mpr ⟨first, printing_cons.mpr ⟨by decide, ih later⟩⟩

theorem printing_entries {entries : Entries} (each : ∀ entry ∈ entries, Printing (line entry.2)) :
    Printing (writeEntries .compact entries) := by
  induction entries with
  | nil => simp [writeEntries, Printing]
  | cons entry rest ih =>
    obtain ⟨key, value⟩ := entry
    obtain ⟨first, later⟩ := List.forall_mem_cons.mp each
    have name := printing_writeString (keyName key)
    cases rest with
    | nil =>
      rw [writeEntries_single]
      exact printing_append.mpr ⟨name, printing_cons.mpr ⟨by decide, first⟩⟩
    | cons next more =>
      rw [writeEntries_cons]
      exact printing_append.mpr ⟨name, printing_cons.mpr ⟨by decide,
        printing_append.mpr ⟨first, printing_cons.mpr ⟨by decide, ih later⟩⟩⟩⟩

/-- A line has no break in it, nor anything else that is not printable ASCII. -/
theorem printing_line {document : Document} (portable : Portable document) :
    Printing (line document) := by
  -- Brackets, commas and colons print, and so does all that stands between them.
  induction portable with
  | null => rw [line, write]; decide
  | bool value => cases value <;> (rw [line, write]; decide)
  | int value => rw [line, write]; exact printing_toString value
  | text value => rw [line, write]; exact printing_writeString value.toList
  | list each ih =>
    rw [line_list]
    exact printing_append.mpr ⟨printing_cons.mpr ⟨by decide, printing_items ih⟩, by decide⟩
  | mapping named distinct each ih =>
    rw [line_mapping]
    exact printing_append.mpr ⟨printing_cons.mpr ⟨by decide, printing_entries ih⟩, by decide⟩

end Printing

end ImportOrder.Json
