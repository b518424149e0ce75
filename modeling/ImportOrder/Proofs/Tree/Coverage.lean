import ImportOrder.Proofs.Tree.Census

/-! Character offsets are exact: each counts the characters that end in front of its byte offset, and
between the offsets of a statement or a comment stand the characters whose bytes its nodes cover. -/

namespace ImportOrder

namespace Utf8

/-- Both ways of counting agree with the number of characters that end in front of an offset: keeping
the offset where every character has one byte, and decoding what stands in front of it. -/
theorem charOffset_eq_endingBy (text : Text) {offset : Nat} (bound : offset ≤ (encode text).length) :
    charOffset text offset = endingBy text offset := by
  rw [length_encode] at bound
  unfold charOffset
  split
  · next ascii =>
    have ascii : length text = text.length := by simpa using ascii
    -- As many characters as bytes stand in front of the offset.
    have front := length_take_ascii ascii (show offset ≤ text.length by omega)
    have count := charsBefore_take text (show offset ≤ text.length by omega)
    rw [front] at count
    rw [← charsBefore_eq_endingBy, count]
  · rw [length_salvage_take, charsBefore_eq_endingBy]

end Utf8

namespace Tree

variable {text : Text}

/-- Two offsets into a text that enclose the characters of the bytes from `first` to `last`. -/
def Slices (text : Text) (start stop : Int) (first last : Nat) : Prop :=
  -- The bytes decide, so that an offset in the middle of a character could not pass.
  ∃ low high : Nat, start = low ∧ stop = high ∧
    Utf8.encode (text.slice low high) = ((Utf8.encode text).take last).drop first

/-- A statement encloses the characters of its node from the first to the last token, and each of its
comments those of a comment beside the node or in it. -/
structure Covers (text : Text) (root node : Node) (statement : ImportStatement) : Prop where
  own : ∃ first last, (tokens node).head? = some first ∧ (tokens node).getLast? = some last ∧
    Slices text statement.start statement.stop first.start last.stop
  comments : ∀ comment ∈ statement.leading ++ statement.trailing, ∃ source,
    (source ∈ root.children ∨ source ∈ node.children) ∧ isComment source = true ∧
      Slices text comment.start comment.stop source.start source.stop

/-- Offsets of boundaries enclose the characters of the bytes between them. -/
theorem slices_between {early late : Nat} (first : Utf8.Boundary text early)
    (second : Utf8.Boundary text late) :
    Slices text (Utf8.charOffset text early) (Utf8.charOffset text late) early late :=
  ⟨_, _, rfl, rfl, (Utf8.bytes_between first second).symm⟩

/-- The comments of a statement are those of comments among its neighbours and of comments in it. -/
theorem source_of_comment {before behind : List Node} {node first last : Node} {specifier : String}
    {comment : Comment}
    (mem : comment ∈ (reported text before node first last behind specifier).leading ++
      (reported text before node first last behind specifier).trailing) :
    ∃ source, commentOf text source = comment ∧ isComment source = true ∧
      (source ∈ before ∨ source ∈ behind ∨ source ∈ node.children) := by
  simp only [reported, List.mem_append, List.mem_map, List.mem_reverse, innerLeading, innerTrailing,
    List.mem_filter, Bool.and_eq_true] at mem
  -- A run of comments holds only comments, and so does what is kept of the node.
  obtain ⟨source, run | ⟨child, told, -⟩, same⟩ | ⟨source, ⟨child, ⟨told, -⟩, -⟩ | run, same⟩ := mem
  · exact ⟨source, same, List.mem_takeWhile_imp run, .inl ((List.takeWhile_sublist _).subset run)⟩
  · exact ⟨source, same, told, .inr (.inr child)⟩
  · exact ⟨source, same, told, .inr (.inr child)⟩
  · exact ⟨source, same, List.mem_takeWhile_imp run,
      .inr (.inl ((List.takeWhile_sublist _).subset run))⟩

/-- What a node gives covers it. -/
theorem Gives.covers {root node : Node} {statement : ImportStatement} (whole : Whole text root)
    (given : Gives text root.children [] node statement) : Covers text root node statement := by
  obtain ⟨before, behind, split, found⟩ := given
  obtain ⟨kind, specifier, first, last, -, head, final, rfl⟩ := statement?_eq_some found
  have node_mem : node ∈ root.children := by rw [split]; simp
  have inner := whole.inner node node_mem kind
  have first_mem : first ∈ node.children := (List.mem_filter.mp (List.mem_of_head? head)).1
  have last_mem : last ∈ node.children := (List.mem_filter.mp (List.mem_of_getLast? final)).1
  -- The tokens are nodes of the statement, and none of these cuts a character.
  refine ⟨⟨first, last, head, final, ?_⟩, ?_⟩
  · exact slices_between (inner first first_mem).1 (inner last last_mem).2
  · intro comment mem
    obtain ⟨source, rfl, told, place⟩ := source_of_comment mem
    -- Wherever the comment stands, it cuts no character.
    have known : source ∈ root.children ∨ source ∈ node.children := by
      rcases place with front | back | child
      · exact .inl (by rw [split]; exact List.mem_append_left _ (by simpa using front))
      · exact .inl (by rw [split]; simp [back])
      · exact .inr child
    have source_whole : source.Whole text := known.elim (whole.top source) (inner source)
    exact ⟨source, known, told, slices_between source_whole.1 source_whole.2⟩

/-- Byte offsets convert exactly. Up to the end of the bytes an offset becomes the number of
characters that end at or before it, whether every character has one byte or the bytes in front are
decoded; later offsets become no smaller ones, and the bytes of the first characters lead back to
their number. Between the offsets of a comment, and between those of a statement, stand exactly the
characters whose bytes the tree covers. -/
theorem offsets_exact (text : Text) :
    (∀ offset ≤ (Utf8.encode text).length,
      Utf8.charOffset text offset = Utf8.endingBy text offset ∧
      (Utf8.salvage ((Utf8.encode text).take offset)).length = Utf8.endingBy text offset ∧
      ((Utf8.encode text).length = text.length → offset = Utf8.endingBy text offset)) ∧
    (∀ early late, early ≤ late → Utf8.charOffset text early ≤ Utf8.charOffset text late) ∧
    (∀ count ≤ text.length,
      Utf8.charOffset text (Utf8.encode (text.take count)).length = count) ∧
    (∀ node : Node, node.Whole text →
      Slices text (commentOf text node).start (commentOf text node).stop node.start node.stop) ∧
    ∀ root, Whole text root → ∃ statements, imports text root = .ok statements ∧
      List.Forall₂ (Covers text root) (importNodes root) statements := by
  refine ⟨?_, ?_, ?_, ?_, ?_⟩
  · intro offset bound
    have count := Utf8.charOffset_eq_endingBy text bound
    refine ⟨count, ?_, ?_⟩
    · rw [Utf8.length_salvage_take, Utf8.charsBefore_eq_endingBy]
    · intro ascii
      -- Where every character has one byte, the offset is its own count.
      have kept : Utf8.charOffset text offset = offset := by
        rw [Utf8.charOffset, if_pos (by rw [← Utf8.length_encode, ascii]; exact beq_self_eq_true _)]
      rw [← count, kept]
  · exact fun early late le => Utf8.charOffset_mono text le
  · -- The bytes of the first characters end with a character, so all of these are counted.
    intro count bound
    rw [Utf8.length_encode]
    exact Utf8.charOffset_take text bound
  · exact fun node whole => slices_between whole.1 whole.2
  · intro root whole
    obtain ⟨statements, told, census⟩ := imports_census whole
    exact ⟨statements, told, census.imp fun _ _ given => given.covers whole⟩

/-- A comment with characters of two, three and four bytes in front of a statement, and one behind. -/
def widthsText : Text := "/*é€😀*/import'ü'//π".toList

/-- The tree of that text, with the last comment in the statement. -/
def widthsRoot : Node where
  kind := "program"
  start := 0
  stop := 27
  children :=
    [ { kind := "comment", start := 0, stop := 13 },
      { kind := "import_statement", start := 13, stop := 27, children :=
          [ { kind := "import", start := 13, stop := 19 },
            { kind := "string", start := 19, stop := 23, role := some "source" },
            { kind := "comment", start := 23, stop := 27 } ] } ]

/-- An offset inside the character of four bytes counts the four characters in front of it, and the
statement behind the comment stands at its characters. -/
theorem offsets_exact_widths :
    Whole widthsText widthsRoot ∧ 9 ≤ (Utf8.encode widthsText).length ∧
      Utf8.charOffset widthsText 9 = 4 ∧
      ∃ statements, imports widthsText widthsRoot = .ok statements ∧
        statements.map (fun statement => (statement.start, statement.stop)) = [(7, 16)] ∧
        List.Forall₂ (Covers widthsText widthsRoot) (importNodes widthsRoot) statements := by
  have whole : Whole widthsText widthsRoot := by decide +kernel
  have bound : 9 ≤ (Utf8.encode widthsText).length := by decide +kernel
  have ending : Utf8.endingBy widthsText 9 = 4 := by decide +kernel
  obtain ⟨counts, -, -, -, covers⟩ := offsets_exact widthsText
  obtain ⟨statements, told, census⟩ := covers widthsRoot whole
  refine ⟨whole, bound, (counts 9 bound).1.trans ending, statements, told, ?_, census⟩
  -- The two offsets are computed, and the theorem says that they are exact.
  have places : ((imports widthsText widthsRoot).toOption.map fun statements =>
      statements.map fun statement => (statement.start, statement.stop)) = some [(7, 16)] := by
    decide +kernel
  rw [told] at places
  exact Option.some.inj places

end Tree

end ImportOrder
