import ImportOrder.Proofs.Options.Groups

/-! Options without problems. Where the check finds nothing wrong with a document, no part of it is
replaced in silence: every option has the value that the document gives it, or its default if the
document gives none, and every group is used. -/

namespace ImportOrder

/-- An option has the value that is given for it, or its default if none is given. -/
def Holds {α : Type} (given : Option Document) (write : α → Document) (held default : α) : Prop :=
  given.elim (held = default) (· = write held)

/-- The value of a key, where null stands for no value. -/
def Entries.given? (entries : Entries) (key : String) : Option Document :=
  match entries.get? key with
  | some .null => none
  | found => found

/-- An entry stands for a group: a bucket and a way to order it, or a bucket alone, which keeps its
order. -/
inductive StandsFor : Document → Group → Prop
  | pair (bucket algorithm : String) :
      StandsFor (.list [.text bucket, .text algorithm]) ⟨bucket, algorithm⟩
  | bare (bucket : String) : StandsFor (.text bucket) ⟨bucket, Algorithm.persist⟩

/-- The resolver is what a document says. -/
structure ResolverOptions.Follows (options : ResolverOptions) (entries : Entries) : Prop where
  type : Holds (entries.get? OptionKey.resolverType) .text options.type
    ({} : ResolverOptions).type
  configName : Holds (entries.get? OptionKey.resolverConfigName) .text options.configName
    ({} : ResolverOptions).configName

/-- The logging options are what a document says. -/
structure LoggingOptions.Follows (options : LoggingOptions) (entries : Entries) : Prop where
  enabled : Holds (entries.get? OptionKey.loggingEnabled) .bool options.enabled
    ({} : LoggingOptions).enabled
  directory : Holds (entries.get? OptionKey.loggingDirectory) .text options.directory
    ({} : LoggingOptions).directory

/-- The options are what a document says. -/
structure Options.Follows (options : Options) (entries : Entries) : Prop where
  commentMode : Holds (entries.get? OptionKey.commentMode) .text options.commentMode
    ({} : Options).commentMode
  location : Holds (entries.get? OptionKey.location) .text options.location ({} : Options).location
  groups : (entries.given? OptionKey.groups).elim (options.groups = ({} : Options).groups) fun value =>
    ∃ items, value = .list items ∧ List.Forall₂ StandsFor items options.groups
  splitRelative : Holds (entries.get? OptionKey.splitRelative) .bool options.splitRelative
    ({} : Options).splitRelative
  relativeOrder : Holds (entries.get? OptionKey.relativeOrder) .text options.relativeOrder
    ({} : Options).relativeOrder
  lineEnd : Holds (entries.get? OptionKey.lineEnd) .text options.lineEnd ({} : Options).lineEnd
  resolver : (entries.given? OptionKey.resolver).elim (options.resolver = {}) fun value =>
    ∃ inner, value = .mapping inner ∧ options.resolver.Follows inner
  splitPattern : Holds (entries.get? OptionKey.splitPattern) .text options.splitPattern
    ({} : Options).splitPattern
  logging : (entries.given? OptionKey.logging).elim (options.logging = {}) fun value =>
    ∃ inner, value = .mapping inner ∧ options.logging.Follows inner

namespace OptionCheck

section Values

variable {entries : Entries} {key : String}

/-- A document that is one of some names is a text. -/
theorem text_of_isOneOf {names : List String} {value : Document}
    (known : isOneOf names value = true) : ∃ name ∈ names, value = .text name := by
  cases value with
  | text name =>
    refine ⟨name, ?_, rfl⟩
    simpa [isOneOf, Document.text?] using known
  | _ => cases known

/-- Nothing is wrong with a key exactly if its value, if it has one, is good. -/
theorem expect_eq_nil_iff {good : Document → Bool} {problem : Document → OptionProblem} :
    expect entries key good problem = [] ↔
      ∀ value, entries.get? key = some value → good value = true := by
  -- A key that is not there is not checked at all.
  unfold expect
  cases entries.get? key with
  | none => simp
  | some value => simp

/-- A text is held as it is given. -/
theorem holds_textOr (default : String)
    (texts : ∀ value, entries.get? key = some value → value.text?.isSome = true) :
    Holds (entries.get? key) .text (entries.textOr key default) default := by
  unfold Entries.textOr
  cases found : entries.get? key with
  | none => rfl
  | some value =>
    -- Any other kind of value is excluded by the hypothesis, so none is replaced.
    cases value with
    | text name => rfl
    | _ => cases texts _ found

/-- A truth value is held as it is given. -/
theorem holds_boolOr (default : Bool)
    (truths : ∀ value, entries.get? key = some value → value.bool?.isSome = true) :
    Holds (entries.get? key) .bool (entries.boolOr key default) default := by
  unfold Entries.boolOr
  cases found : entries.get? key with
  | none => rfl
  | some value =>
    cases value with
    | bool held => rfl
    | _ => cases truths _ found

/-- A choice that is not wrong is held as it is given. -/
theorem holds_choice {names : List String} {problem : Document → OptionProblem} (default : String)
    (clean : expect entries key (isOneOf names) problem = []) :
    Holds (entries.get? key) .text (entries.textOr key default) default := by
  -- A choice is one of some names, so it is a text.
  apply holds_textOr
  intro value found
  obtain ⟨name, -, rfl⟩ := text_of_isOneOf (expect_eq_nil_iff.mp clean value found)
  rfl

/-- A pattern that is not wrong is held as it is given. -/
theorem holds_pattern (default : String) (clean : pattern entries = .ok []) :
    Holds (entries.get? OptionKey.splitPattern) .text
      (entries.textOr OptionKey.splitPattern default) default := by
  apply holds_textOr
  intro value found
  unfold pattern at clean
  rw [found] at clean
  -- Whether the text is a pattern does not matter: it is held in any case.
  cases value with
  | text source => rfl
  | _ => cases clean

/-- A section that is not wrong is read as it says, unless it is null or left out. -/
theorem follows_section {α : Type} {check : Document → List OptionProblem} {read : Document → α}
    {Follows : α → Entries → Prop}
    (shape : ∀ value, check value = [] → value = .null ∨ ∃ inner, value = .mapping inner)
    (inside : ∀ inner, check (.mapping inner) = [] → Follows (read (.mapping inner)) inner)
    (clean : check ((entries.get? key).getD .null) = []) :
    (entries.given? key).elim (read ((entries.get? key).getD .null) = read .null) fun value =>
      ∃ inner, value = .mapping inner ∧ Follows (read ((entries.get? key).getD .null)) inner := by
  unfold Entries.given?
  -- A section that is left out and one that is null are read alike.
  cases found : entries.get? key with
  | none => rfl
  | some value =>
    rw [found] at clean
    rcases shape value clean with rfl | ⟨inner, rfl⟩
    · rfl
    · exact ⟨inner, rfl, inside inner clean⟩

/-- A resolver that is not wrong is what its section says. -/
theorem follows_resolver
    (clean : resolver ((entries.get? OptionKey.resolver).getD .null) = []) :
    (entries.given? OptionKey.resolver).elim
      (ResolverOptions.ofDocument ((entries.get? OptionKey.resolver).getD .null) = {}) fun value =>
        ∃ inner, value = .mapping inner ∧
          (ResolverOptions.ofDocument ((entries.get? OptionKey.resolver).getD .null)).Follows
            inner := by
  refine follows_section ?_ ?_ clean
  · intro value clean
    cases value with
    | null => exact .inl rfl
    | mapping inner => exact .inr ⟨inner, rfl⟩
    | _ => cases clean
  · intro inner clean
    obtain ⟨type, configName⟩ := List.append_eq_nil_iff.mp clean
    exact ⟨holds_choice _ type, holds_textOr _ (expect_eq_nil_iff.mp configName)⟩

/-- Logging options that are not wrong are what their section says. -/
theorem follows_logging (clean : logging ((entries.get? OptionKey.logging).getD .null) = []) :
    (entries.given? OptionKey.logging).elim
      (LoggingOptions.ofDocument ((entries.get? OptionKey.logging).getD .null) = {}) fun value =>
        ∃ inner, value = .mapping inner ∧
          (LoggingOptions.ofDocument ((entries.get? OptionKey.logging).getD .null)).Follows
            inner := by
  refine follows_section ?_ ?_ clean
  · intro value clean
    cases value with
    | null => exact .inl rfl
    | mapping inner => exact .inr ⟨inner, rfl⟩
    | _ => cases clean
  · intro inner clean
    obtain ⟨enabled, directory⟩ := List.append_eq_nil_iff.mp clean
    exact ⟨holds_boolOr _ (expect_eq_nil_iff.mp enabled),
      holds_textOr _ (expect_eq_nil_iff.mp directory)⟩

end Values

section Groups

/-- An entry of which nothing is reported stands for the group that it is read as. -/
theorem standsFor_of_groupEntry {seen : List String} {index : Nat} {entry : Document}
    (clean : groupEntry seen index entry = []) :
    ∃ group, StandsFor entry group ∧ Group.ofDocument? entry = some group := by
  unfold groupEntry at clean
  cases parts : groupParts? entry with
  | none =>
    -- An entry that is no group is reported.
    rw [parts] at clean
    cases clean
  | some names =>
    obtain ⟨bucket, algorithm⟩ := names
    rw [parts] at clean
    simp only [List.append_eq_nil_iff, ite_eq_left_iff, List.cons_ne_self, imp_false, Bool.not_eq_true,
      Bool.not_eq_false] at clean
    -- The bucket and the way to order it are known, so both are texts.
    obtain ⟨name, -, rfl⟩ := text_of_isOneOf clean.1.1
    obtain ⟨way, -, rfl⟩ := text_of_isOneOf clean.1.2
    -- They were given as a pair, or the bucket was given alone.
    unfold groupParts? at parts
    split at parts
    · cases parts
      exact ⟨_, .bare name, rfl⟩
    · cases parts
      exact ⟨_, .pair name way, rfl⟩
    · cases parts

/-- Entries of which nothing is reported stand for the groups that they are read as, one by one. -/
theorem standsFor_of_groupEntries {seen : List String} {index : Nat} {items : List Document}
    (clean : groupEntries seen index items = []) :
    List.Forall₂ StandsFor items (groupsOf (.list items)) := by
  -- The buckets named so far and the number of the entry change along the list.
  induction items generalizing seen index with
  | nil => exact .nil
  | cons entry rest ih =>
    -- Nothing is reported of the first entry, and nothing of the others.
    obtain ⟨first, later⟩ := List.append_eq_nil_iff.mp clean
    obtain ⟨group, stands, read⟩ := standsFor_of_groupEntry first
    rw [groupsOf, List.filterMap_cons_some read]
    exact .cons stands (ih later)

/-- Entries that stand for groups name their buckets by texts, and none of them is a pair. -/
theorem named_of_standsFor {items : List Document} {groups : List Group}
    (stand : List.Forall₂ StandsFor items groups) :
    ∀ entry ∈ items, namedByText entry = true ∧ entry.isPair = false := by
  induction stand with
  | nil => simp
  | cons stands _ ih =>
    refine List.forall_mem_cons.mpr ⟨?_, ih⟩
    cases stands with
    | pair => exact ⟨rfl, rfl⟩
    | bare => exact ⟨rfl, rfl⟩

/-- The groups of entries of which nothing is reported name no bucket twice. -/
theorem distinctFrom_of_groupEntries {items : List Document}
    (clean : groupEntries [] 0 items = []) :
    Sorter.distinctFrom [] (groupsOf (.list items)) = groupsOf (.list items) := by
  have named := named_of_standsFor (standsFor_of_groupEntries clean)
  -- No group is reported as repeated, so the first ones of their buckets are all groups.
  have kept := firsts_repeated_perm (fun entry member => (named entry member).1)
    (fun entry member => (named entry member).2) 0 fun bucket : String => Iff.refl (bucket ∈ [])
  rw [clean, List.filterMap_nil, List.append_nil] at kept
  have all : firstsFrom [] (placedGroups 0 items) = placedGroups 0 items :=
    (firstsFrom_sublist [] _).eq_of_length (by simpa using kept.length_eq)
  rw [← map_placedGroups 0 items, ← map_firstsFrom, all]

variable {entries : Entries}

/-- Groups that are not wrong are those that their entries stand for. -/
theorem follows_groups (clean : groups ((entries.get? OptionKey.groups).getD .null) = []) :
    (entries.given? OptionKey.groups).elim
      ((Options.ofDocument (.mapping entries)).groups = ({} : Options).groups) fun value =>
        ∃ items, value = .list items ∧
          List.Forall₂ StandsFor items (Options.ofDocument (.mapping entries)).groups := by
  simp only [Options.ofDocument, Document.entries, Document.entries?, Option.getD_some,
    Entries.given?]
  cases found : entries.get? OptionKey.groups with
  | none => rfl
  | some value =>
    rw [found] at clean
    cases value with
    | null => rfl
    | list items => exact ⟨items, rfl, standsFor_of_groupEntries clean⟩
    | _ => cases clean

/-- Groups that are not wrong name no bucket twice. -/
theorem distinctFrom_of_groups (clean : groups ((entries.get? OptionKey.groups).getD .null) = []) :
    Sorter.distinctFrom [] (Options.ofDocument (.mapping entries)).groups =
      (Options.ofDocument (.mapping entries)).groups := by
  -- The default groups stand for groups that are null or left out.
  have defaults : Sorter.distinctFrom [] ({} : Options).groups = ({} : Options).groups := by decide
  simp only [Options.ofDocument, Document.entries, Document.entries?, Option.getD_some]
  cases found : entries.get? OptionKey.groups with
  | none => exact defaults
  | some value =>
    rw [found] at clean
    cases value with
    | null => exact defaults
    | list items => exact distinctFrom_of_groupEntries clean
    | _ => cases clean

end Groups

/-- Where nothing is wrong with the entries of a document, every option has the value that is given
for it or else its default, and every group is used, with at most one more for the rest. -/
theorem clean_options_kept {entries : Entries} (clean : optionProblems (.mapping entries) = .ok []) :
    (Options.ofDocument (.mapping entries)).Follows entries ∧
      ∃ extra, Sorter.effectiveGroups (Options.ofDocument (.mapping entries)).groups =
          (Options.ofDocument (.mapping entries)).groups ++ extra ∧
        (extra = [] ∨ extra = [⟨Bucket.rest, Algorithm.persist⟩]) := by
  unfold optionProblems OptionCheck.entries at clean
  dsimp only at clean
  cases compiled : pattern entries with
  | error excess =>
    -- A pattern that asks for too much ends the check without a list of problems.
    rw [compiled] at clean
    cases clean
  | ok problems =>
    rw [compiled] at clean
    -- Nothing is wrong on the whole, so nothing is wrong with any part.
    have parts := Except.ok.inj clean
    simp only [List.append_eq_nil_iff] at parts
    obtain ⟨⟨⟨⟨⟨⟨⟨⟨⟨-, mode⟩, location⟩, order⟩, lineEnd⟩, split⟩, rfl⟩, groups⟩, resolver⟩,
      logging⟩ := parts
    refine ⟨?_, ?_⟩
    · exact {
        commentMode := holds_choice _ mode
        location := holds_choice _ location
        groups := follows_groups groups
        splitRelative := holds_boolOr _ (expect_eq_nil_iff.mp split)
        relativeOrder := holds_choice _ order
        lineEnd := holds_choice _ lineEnd
        resolver := follows_resolver resolver
        splitPattern := holds_pattern _ compiled
        logging := follows_logging logging }
    · -- Only repeated groups are dropped, and there are none.
      obtain ⟨extra, used, shape⟩ :=
        effectiveGroups_eq (Options.ofDocument (.mapping entries)).groups
      exact ⟨extra, by rw [used, distinctFrom_of_groups groups], shape⟩

/-- A document with options of all kinds, among them a section that is left out by null. -/
def fullOptions : Entries :=
  [(.text "splitLocalPattern", .text "^([a-z]+)/"), (.text "logging", .null),
    (.text "groups", .list [.text "local", .list [.text "global", .text "natural"]]),
    (.text "splitRelativeGroups", .bool false), (.text "endOfLine", .text "crlf"),
    (.text "resolver", .mapping [(.text "type", .text "fs")])]

/-- All options of a document without problems are kept. -/
theorem clean_options_kept_full :
    optionProblems (.mapping fullOptions) = .ok [] ∧
    (Options.ofDocument (.mapping fullOptions)).Follows fullOptions ∧
      ∃ extra, Sorter.effectiveGroups (Options.ofDocument (.mapping fullOptions)).groups =
          (Options.ofDocument (.mapping fullOptions)).groups ++ extra ∧
        (extra = [] ∨ extra = [⟨Bucket.rest, Algorithm.persist⟩]) := by
  have none_wrong : (optionProblems (.mapping fullOptions)).toOption.all List.isEmpty = true ∧
      (optionProblems (.mapping fullOptions)).toOption.isSome = true := by decide +kernel
  have clean : optionProblems (.mapping fullOptions) = .ok [] := by
    cases done : optionProblems (.mapping fullOptions) with
    | error excess => simp [done, Except.toOption] at none_wrong
    | ok problems =>
      have empty : problems = [] := by simpa [done, Except.toOption] using none_wrong
      rw [empty]
  exact ⟨clean, clean_options_kept clean⟩

end OptionCheck

end ImportOrder
