import ImportOrder.Proofs.Command.Conclusion
import ImportOrder.Proofs.Text.Utf8

/-! What a run tells is what it did: a result differs from its file exactly where it says so, the
report says of a file that it was written if its content is another one, every file is counted once,
and the exit code follows the outcomes. -/

namespace ImportOrder

/-- Whether a file has a result that differs from it. -/
def Outcome.changed (outcome : Outcome) : Bool := outcome.result?.any SortResult.changed

/-- A result is sound if no source is skipped and changed. -/
def SortResult.Sound (result : SortResult) : Prop :=
  result.status = Status.skipped → result.changed = false

section Outcomes

@[simp] theorem Outcome.changed_error (path message : String) :
    Outcome.changed ⟨path, .error message⟩ = false := rfl

@[simp] theorem Outcome.changed_ok (path : String) (result : SortResult) :
    Outcome.changed ⟨path, .ok result⟩ = result.changed := rfl

theorem Outcome.changed_untimed (outcome : Outcome) : outcome.untimed.changed = outcome.changed := by
  obtain ⟨path, failure | result⟩ := outcome <;> rfl

section Counting

variable (path : String) (rest : List Outcome)

/-- A failure counts as one. -/
theorem Summary.ofOutcomes_error (message : String) :
    Summary.ofOutcomes (⟨path, .error message⟩ :: rest) =
      { Summary.ofOutcomes rest with errors := (Summary.ofOutcomes rest).errors + 1 } := by
  simp [Summary.ofOutcomes, Summary.of, Outcome.result?, Outcome.failed, Except.toOption,
    List.countP_cons, List.filterMap_cons]

/-- A result counts by whether it differs, and by its status. -/
theorem Summary.ofOutcomes_ok (result : SortResult) :
    Summary.ofOutcomes (⟨path, .ok result⟩ :: rest) =
      { changed := (Summary.ofOutcomes rest).changed + result.changed.toNat
        unchanged := (Summary.ofOutcomes rest).unchanged +
          (!result.changed && result.status != Status.skipped).toNat
        skipped := (Summary.ofOutcomes rest).skipped + (result.status == Status.skipped).toNat
        errors := (Summary.ofOutcomes rest).errors } := by
  -- The counts are written with a choice of one or nothing.
  have toNat_eq : ∀ told : Bool, (if told = true then 1 else 0) = told.toNat := by decide
  simp only [Summary.ofOutcomes, Summary.of, Outcome.result?, Outcome.failed, Except.toOption,
    List.filterMap_cons, List.countP_cons, toNat_eq]
  rfl

end Counting

/-- Every file is counted once. -/
theorem Summary.total {outcomes : List Outcome}
    (sound : ∀ outcome ∈ outcomes, ∀ result, outcome.result = .ok result → result.Sound) :
    let summary := Summary.ofOutcomes outcomes
    summary.changed + summary.unchanged + summary.skipped + summary.errors = outcomes.length := by
  -- Each outcome adds one to exactly one of the four counts.
  induction outcomes with
  | nil => rfl
  | cons outcome rest ih =>
    have others := ih fun other member => sound other (List.mem_cons_of_mem _ member)
    have own := sound outcome List.mem_cons_self
    obtain ⟨path, message | result⟩ := outcome
    · simp only [Summary.ofOutcomes_error, List.length_cons] at others ⊢
      omega
    · -- What is skipped does not differ, so a result is of one of three kinds.
      have once : result.changed.toNat + (!result.changed && result.status != Status.skipped).toNat +
          (result.status == Status.skipped).toNat = 1 := by
        by_cases skipped : result.status = Status.skipped
        · simp [skipped, own result rfl skipped]
        · have other : (result.status == Status.skipped) = false := beq_false_of_ne skipped
          cases result.changed <;> simp [bne, other]
      simp only [Summary.ofOutcomes_ok, List.length_cons] at others ⊢
      omega

/-- The files that are counted as changed. -/
theorem Summary.changed_eq (outcomes : List Outcome) :
    (Summary.ofOutcomes outcomes).changed = outcomes.countP Outcome.changed := by
  induction outcomes with
  | nil => rfl
  | cons outcome rest ih =>
    obtain ⟨path, message | result⟩ := outcome
    · rw [Summary.ofOutcomes_error, List.countP_cons_of_neg (by simp), ih]
    · rw [Summary.ofOutcomes_ok, List.countP_cons, ih, Outcome.changed_ok]
      cases result.changed <;> rfl

namespace Command

/-- The exit code tells of failures, and in a check of files that would change. -/
theorem exitCode_toNat (check : Bool) (outcomes : List Outcome) :
    (exitCode check (Summary.ofOutcomes outcomes)).toNat =
      if outcomes.any Outcome.failed then 2
      else if check && outcomes.any Outcome.changed then 1 else 0 := by
  -- A count is not zero where some outcome is of its kind.
  have counted : ∀ kind : Outcome → Bool, (outcomes.countP kind != 0) = outcomes.any kind := by
    intro kind
    rw [Bool.eq_iff_iff, bne_iff_ne, ← Nat.pos_iff_ne_zero, List.countP_pos_iff, List.any_eq_true]
  -- The failures are counted as such.
  have failures : (Summary.ofOutcomes outcomes).errors = outcomes.countP Outcome.failed := rfl
  rw [exitCode, failures, Summary.changed_eq, counted, counted]
  split
  · rfl
  · split <;> rfl

/-- The entry of a file says that it was written if it differs and the run is no check. -/
theorem entry_written_iff (check : Bool) (outcome : Outcome) :
    (Report.entry check outcome).entries.get? "written" = some (.bool true) ↔
      outcome.changed = true ∧ check = false := by
  obtain ⟨path, message | result⟩ := outcome
  · have missing : (Report.entry check ⟨path, .error message⟩).entries.get? "written" = none := rfl
    simp [missing]
  · have written : (Report.entry check ⟨path, .ok result⟩).entries.get? "written" =
        some (.bool (result.changed && !check)) := rfl
    simp [written]

end Command

end Outcomes

end ImportOrder

namespace ImportOrder.Command

section Verdicts

variable {files : FileTree} {config : Option String} {path : String}

/-- A result of a source says whether its text differs from the source, and is sound. -/
structure Honest (source : Text) (result : SortResult) : Prop where
  changed : result.changed = true ↔ result.source ≠ source
  sound : result.Sound

theorem arranged_honest (source : Text) (arrangement? : Option Arrangement) :
    Honest source (arranged source arrangement?).1 := by
  cases arrangement? with
  | none => exact ⟨by simp [arranged], fun _ => rfl⟩
  | some arrangement =>
    refine ⟨by simp [arranged], ?_⟩
    -- Neither of the two statuses is that of a source that is left alone.
    unfold SortResult.Sound
    simp only [arranged]
    split
    · intro skipped
      exact absurd skipped (by decide)
    · intro skipped
      exact absurd skipped (by decide)

theorem sorting_honest {options : Options} {source : Text} {result : SortResult} {warning : String}
    (sorted : sorting files options path source = .ok (result, warning)) : Honest source result := by
  unfold sorting at sorted
  cases resolved : Project.resolver files options.resolver path with
  | error failure =>
    simp only [resolved] at sorted
    cases failure with
    | config error =>
      -- Without a resolver the source is skipped as it is.
      cases sorted
      exact ⟨by simp, fun _ => rfl⟩
    | _ => cases sorted
  | ok resolver =>
    simp only [resolved] at sorted
    cases arranges : arrangeImports (resolver.classifier files) options path source with
    | error failure => simp [arranges, Except.map] at sorted
    | ok arrangement? =>
      simp only [arranges, Except.map, Except.ok.injEq] at sorted
      -- The text is what the arrangement holds, and it is compared with the source.
      have honest := arranged_honest source arrangement?
      rwa [sorted] at honest

/-- A file cannot be read, or it holds the bytes of a text. -/
theorem readSource_cases (files : FileTree) (path : String) :
    (∃ detail : String, readSource files path = .error s!"Cannot read {path}: {detail}") ∨
      ∃ content source, files.read path = .ok content ∧ Utf8.decode content = .ok source ∧
        readSource files path = .ok source := by
  unfold readSource
  cases files.read path with
  | error error => exact .inl ⟨error.message path, rfl⟩
  | ok content =>
    -- The bytes of a file need not be a text.
    cases decode : Utf8.decode content with
    | error fault => exact .inl ⟨fault.message, by simp [decode, Except.mapError]⟩
    | ok source => exact .inr ⟨content, source, rfl, decode, by simp [decode, Except.mapError]⟩

/-- A file comes to a message, because it cannot be read or by a failure that is reported, or to the
result of sorting its text. -/
theorem verdict_cases {result : Except String SortResult} {warning : String}
    (decided : verdict files config path = .ok (result, warning)) :
    (∃ message, result = .error message ∧
        (readSource files path = .error message ∨ ∃ failure, reported? failure = some message)) ∨
      ∃ source options sorted, result = .ok sorted ∧ readSource files path = .ok source ∧
        sorting files options path source = .ok (sorted, warning) := by
  -- The options and the sort may fail, and both failures are reported the same way.
  have reports : ∀ failure, refused failure = .ok (result, warning) →
      ∃ message, result = .error message ∧ reported? failure = some message := by
    intro failure told
    unfold refused at told
    cases reported : reported? failure with
    | none => simp [reported] at told
    | some message =>
      simp only [reported] at told
      cases told
      exact ⟨message, rfl, rfl⟩
  unfold verdict judged at decided
  cases read : readSource files path with
  | error message =>
    simp only [read] at decided
    cases decided
    exact .inl ⟨message, rfl, .inl rfl⟩
  | ok source =>
    simp only [read] at decided
    cases options : optionsAt files config path with
    | error failure =>
      simp only [options] at decided
      obtain ⟨message, rfl, reported⟩ := reports failure decided
      exact .inl ⟨message, rfl, .inr ⟨failure, reported⟩⟩
    | ok entries =>
      simp only [options] at decided
      cases sorted : sorting files (.ofDocument (.mapping entries)) path source with
      | error failure =>
        simp only [sorted] at decided
        obtain ⟨message, rfl, reported⟩ := reports failure decided
        exact .inl ⟨message, rfl, .inr ⟨failure, reported⟩⟩
      | ok pair =>
        simp only [sorted] at decided
        cases decided
        exact .inr ⟨source, _, pair.1, rfl, rfl, sorted⟩

/-- A result of a file is one of its text. -/
theorem verdict_honest {result : SortResult} {warning : String}
    (decided : verdict files config path = .ok (.ok result, warning)) :
    ∃ content source, files.read path = .ok content ∧ Utf8.decode content = .ok source ∧
      Honest source result := by
  rcases verdict_cases decided with ⟨message, same, -⟩ | ⟨source, options, sorted, same, read, sorts⟩
  · -- A message is no result.
    cases same
  · cases same
    rcases readSource_cases files path with
      ⟨detail, failed⟩ | ⟨content, text, content_eq, decode, text_eq⟩
    · rw [failed] at read
      cases read
    · rw [text_eq] at read
      cases read
      exact ⟨content, source, content_eq, decode, sorting_honest sorts⟩

/-- The first letter of the second word of a message that starts with "Cannot". -/
theorem letter_of_message {words : String} {letter : Char} (told : words.toList[7]? = some letter)
    (name detail : String) : (words ++ name ++ ": " ++ detail).toList[7]? = some letter := by
  rw [String.append_assoc, String.append_assoc, String.toList_append,
    List.getElem?_append_left (List.getElem?_eq_some_iff.mp told).1, told]

/-- No message about a file before it is written is that it cannot be written. -/
theorem message_ne_writeFailure {message warning : String}
    (decided : verdict files config path = .ok (.error message, warning)) (name : String)
    (error : FileError) : message ≠ writeFailure name error := by
  -- A file cannot be read, loaded or parsed.
  have letter : (writeFailure name error).toList[7]? = some 'w' := letter_of_message rfl _ _
  suffices other : ∃ c, message.toList[7]? = some c ∧ c ≠ 'w' by
    rintro rfl
    obtain ⟨c, same, other⟩ := other
    exact other (Option.some.inj (same.symm.trans letter))
  -- All other messages start with another verb, and one letter tells them apart.
  rcases verdict_cases decided with ⟨_, same, read | ⟨failure, reported⟩⟩ | ⟨_, _, _, same, -⟩
  · cases same
    rcases readSource_cases files path with ⟨detail, failed⟩ | ⟨_, _, -, -, text_eq⟩
    · rw [failed] at read
      cases read
      exact ⟨'r', letter_of_message rfl _ _, by decide⟩
    · rw [text_eq] at read
      cases read
  · cases same
    -- Of the failures only two kinds are reported.
    cases failure with
    | config error =>
      cases reported
      exact ⟨'l', letter_of_message rfl _ _, by decide⟩
    | source error =>
      cases error with
      | malformed =>
        cases reported
        exact ⟨'p', letter_of_message rfl _ _, by decide⟩
      | splitCharacter => cases reported
    | _ => cases reported
  · cases same

end Verdicts

section Settling

variable {files : FileTree} {path : String} {check : Bool}

/-- What becomes of a file: nothing in a check and where the text is the same, and else the text
cannot be written, or it is written. -/
theorem settled_cases (check : Bool) (files : FileTree) (path : String)
    (result : Except String SortResult) :
    (settled check files path result = (result, files) ∧
        (check = false → ∀ sorted, result = .ok sorted → sorted.changed = false)) ∨
      ∃ sorted, check = false ∧ result = .ok sorted ∧ sorted.changed = true ∧
        ((∃ error, settled check files path result = (.error (writeFailure path error), files)) ∨
          ∃ written, files.write path (Utf8.encode sorted.source) = .ok written ∧
            settled check files path result = (.ok sorted, written)) := by
  cases result with
  | error message => exact .inl ⟨rfl, by simp⟩
  | ok sorted =>
    cases kept : check || !sorted.changed with
    | true =>
      refine .inl ⟨settled_kept kept, ?_⟩
      -- Outside a check, only a text that is the same is kept.
      rintro rfl other same
      rw [← Except.ok.inj same]
      simpa using kept
    | false =>
      have ⟨writes, changed⟩ : check = false ∧ sorted.changed = true := by simpa using kept
      refine .inr ⟨sorted, writes, rfl, changed, ?_⟩
      cases wrote : files.write path (Utf8.encode sorted.source) with
      | error error => exact .inl ⟨error, settled_failed kept wrote⟩
      | ok written => exact .inr ⟨written, rfl, settled_written kept wrote⟩

/-- A check settles nothing. -/
theorem settled_check (result : Except String SortResult) :
    settled true files path result = (result, files) := by
  cases result with
  | error message => rfl
  | ok sorted => exact settled_kept rfl

/-- A result in the end is the one that was settled. -/
theorem eq_ok_of_settled {result : Except String SortResult} {sorted : SortResult}
    (done : (settled check files path result).1 = .ok sorted) : result = .ok sorted := by
  -- A result stays one unless it cannot be written.
  rcases settled_cases check files path result with
    ⟨kept, -⟩ | ⟨other, -, rfl, -, ⟨error, failed⟩ | ⟨written, -, wrote⟩⟩
  · rwa [kept] at done
  · rw [failed] at done
    cases done
  · rwa [wrote] at done

/-- A file that did not hold the bytes of a text holds them. -/
def Rewrites (before after : FileTree) (path : String) (text : Text) : Prop :=
  before.read path ≠ .ok (Utf8.encode text) ∧ after.read path = .ok (Utf8.encode text)

/-- Writing a text that differs rewrites a file. -/
theorem rewrites_of_write {config : Option String} {sorted : SortResult} {warning : String}
    {written : FileTree} (decided : verdict files config path = .ok (.ok sorted, warning))
    (changed : sorted.changed = true)
    (wrote : files.write path (Utf8.encode sorted.source) = .ok written) :
    Rewrites files written path sorted.source := by
  obtain ⟨content, source, read, decode, honest⟩ := verdict_honest decided
  refine ⟨?_, FileTree.read_of_write read wrote⟩
  -- The bytes tell the text, and the text differs.
  rw [read]
  intro same
  rw [Except.ok.inj same, Utf8.decode_encode] at decode
  exact honest.changed.mp changed (Except.ok.inj decode)

/-- A file reads differently in the end if it has a result that was written. -/
theorem settled_read_ne_iff {config : Option String} {result : Except String SortResult}
    {warning : String} (decided : verdict files config path = .ok (result, warning)) :
    (settled check files path result).2.read path ≠ files.read path ↔
      check = false ∧ ∃ sorted, (settled check files path result).1 = .ok sorted ∧
        sorted.changed = true := by
  rcases settled_cases check files path result with
    ⟨kept, alike⟩ | ⟨sorted, writes, rfl, changed, ⟨error, failed⟩ | ⟨written, wrote, done⟩⟩
  · -- Nothing is written, so a result that differs can only come from a check.
    rw [kept]
    refine ⟨fun differs => absurd rfl differs, ?_⟩
    rintro ⟨writes, sorted, same, changed⟩
    rw [alike writes sorted same] at changed
    cases changed
  · -- A file that cannot be written is as it was, and there is no result.
    rw [failed]
    simp
  · -- What is written differs from what was there.
    rw [done]
    obtain ⟨differs, now⟩ := rewrites_of_write decided changed wrote
    exact ⟨fun _ => ⟨writes, sorted, rfl, changed⟩, fun _ => now ▸ differs.symm⟩

end Settling

section Outcomes

/-- Results that are the same apart from the time that they took. -/
theorem exists_timed {first second : Except String SortResult}
    (same : first.map SortResult.untimed = second.map SortResult.untimed) :
    ∃ milliseconds, first = second.map (·.timed milliseconds) := by
  cases first with
  | error message =>
    cases second with
    | error message' =>
      cases same
      exact ⟨0, rfl⟩
    | ok result => cases same
  | ok result =>
    cases second with
    | error message => cases same
    | ok result' =>
      -- All fields but the time are the same, and the time is that of the first.
      refine ⟨result.milliseconds, ?_⟩
      have fields : result.untimed.timed result.milliseconds =
          result'.untimed.timed result.milliseconds := by rw [Except.ok.inj same]
      exact congrArg Except.ok fields

theorem untimed_of_timed {outcome : Outcome} {result : Except String SortResult} {milliseconds : Int}
    (timed : outcome.result = result.map (·.timed milliseconds)) :
    outcome.untimed = ⟨outcome.path, result.map SortResult.untimed⟩ := by
  rw [Outcome.untimed, timed]
  cases result <;> rfl

theorem changed_iff {outcome : Outcome} {result : Except String SortResult} {milliseconds : Int}
    (timed : outcome.result = result.map (·.timed milliseconds)) :
    outcome.changed = true ↔ ∃ sorted, result = .ok sorted ∧ sorted.changed = true := by
  unfold Outcome.changed Outcome.result?
  rw [timed]
  cases result with
  | error message => simp [Except.map, Except.toOption]
  | ok sorted => simp [Except.map, Except.toOption, SortResult.timed]

variable {arguments : Arguments} {before after : Session} {outcomes : List Outcome}

/-- What became of the file of an outcome. -/
theorem Gathered.settles (done : Gathered arguments before after outcomes) {outcome : Outcome}
    (member : outcome ∈ outcomes) :
    ∃ result warning milliseconds,
      verdict before.files arguments.config outcome.path = .ok (result, warning) ∧
      outcome.result = (settled arguments.check before.files outcome.path result).1.map
        (·.timed milliseconds) ∧
      after.files.read outcome.path =
        (settled arguments.check before.files outcome.path result).2.read outcome.path := by
  have named : outcome.path ∈ arguments.files := by
    rw [← done.paths]
    exact List.mem_map_of_mem member
  -- The run ended, so the files at the start decide this one, and what they decide is settled.
  obtain ⟨⟨result, warning⟩, decided⟩ := done.decided outcome.path named
  have settles : settlement before.files arguments outcome.path =
      settled arguments.check before.files outcome.path result := by
    simp only [settlement, decided]
  obtain ⟨milliseconds, timed⟩ := exists_timed
    (congrArg Outcome.result (done.untimed_eq member))
  rw [settles] at timed
  refine ⟨result, warning, milliseconds, decided, timed, ?_⟩
  rw [done.read_eq named, settles]

/-- The results of a run are sound. -/
theorem Gathered.sound (done : Gathered arguments before after outcomes) {outcome : Outcome}
    (member : outcome ∈ outcomes) {result : SortResult} (own : outcome.result = .ok result) :
    result.Sound := by
  obtain ⟨judged, warning, milliseconds, decided, timed, -⟩ := done.settles member
  -- The time does not change whether a result is sound.
  rw [own] at timed
  cases settles : (settled arguments.check before.files outcome.path judged).1 with
  | error message => simp [settles, Except.map] at timed
  | ok sorted =>
    obtain rfl := eq_ok_of_settled settles
    obtain ⟨_, _, -, -, honest⟩ := verdict_honest decided
    simp only [settles, Except.map, Except.ok.injEq] at timed
    rw [timed]
    exact honest.sound

/-- A run changes the files whose results differ, unless it is a check. -/
theorem Gathered.written_iff (done : Gathered arguments before after outcomes) {outcome : Outcome}
    (member : outcome ∈ outcomes) :
    outcome.changed = true ∧ arguments.check = false ↔
      after.files.read outcome.path ≠ before.files.read outcome.path := by
  obtain ⟨result, warning, milliseconds, decided, timed, read⟩ := done.settles member
  rw [read, settled_read_ne_iff decided, changed_iff timed, and_comm]

end Outcomes

section Reports

variable {terminal : Bool} {input : Text} {arguments : Arguments} {before after : Session}
  {code : ExitCode}

/-- The end of a run on files: the report, the counts and the exit code tell what became of them. -/
structure Reported (terminal : Bool) (input : Text) (arguments : Arguments) (before after : Session)
    (code : ExitCode) (outcomes : List Outcome) : Prop where
  parts : ∃ middle text, (gather input arguments).run before = (.ok (.ok outcomes), middle) ∧
    (conclude terminal arguments (.ok outcomes)).run middle = (.ok code, after) ∧
    after = middle.warned text ∧ reportText? terminal arguments outcomes = some text ∧
    (arguments.format = .json → text =
      String.ofList (Report.json arguments.check outcomes (.ofOutcomes outcomes)) ++ "\n")
  paths : outcomes.map Outcome.path = arguments.files
  written : ∀ outcome ∈ outcomes,
    (Report.entry arguments.check outcome).entries.get? "written" = some (.bool true) ↔
      after.files.read outcome.path ≠ before.files.read outcome.path
  counted : (Summary.ofOutcomes outcomes).changed = outcomes.countP Outcome.changed
  total :
    let summary := Summary.ofOutcomes outcomes
    summary.changed + summary.unchanged + summary.skipped + summary.errors = arguments.files.length
  code : code.toNat =
    if outcomes.any Outcome.failed then 2
    else if arguments.check && outcomes.any Outcome.changed then 1 else 0

/-- The outcomes that are reported are those that the first part gives. -/
theorem Reported.countP_eq {outcomes : List Outcome}
    (report : Reported terminal input arguments before after code outcomes) {count : Nat}
    (counts : ((gather input arguments).run before).1.toOption.map
      (·.toOption.map (·.countP Outcome.changed)) = some (some count)) :
    outcomes.countP Outcome.changed = count := by
  obtain ⟨middle, text, gathers, -⟩ := report.parts
  rw [gathers] at counts
  exact Option.some.inj (Option.some.inj counts)

/-- An options file that loads is not a matter for a message. -/
theorem start_ne_message {files : FileTree} {config : Option String}
    (loads : ∀ source, explicit? config = some source →
      ∃ entries, Project.loadOptions files source = .ok entries) (message : String) :
    start files config ≠ .ok (.error message) := by
  unfold start
  cases asked : explicit? config with
  | none => simp
  | some source =>
    obtain ⟨entries, loaded⟩ := loads source asked
    simp only [vetted, loaded, Bind.bind, Except.bind]
    -- What is left to fail is a pattern, and that ends the run.
    cases optionProblems (.mapping entries) with
    | error excess => simp [Except.mapError, Except.map, contained, reported?]
    | ok problems => simp [Except.mapError, Except.map, contained, Pure.pure, Except.pure]

/-- A run on separate files that ends is reported. -/
theorem Separate.reported (separate : Separate before.files arguments)
    (loads : ∀ source, explicit? arguments.config = some source →
      ∃ entries, Project.loadOptions before.files source = .ok entries)
    (ended : (run terminal input arguments).run before = (.ok code, after)) :
    ∃ outcomes middle, Gathered arguments before middle outcomes ∧ after.files = middle.files ∧
      Reported terminal input arguments before after code outcomes := by
  rcases separate.ends ended with
    ⟨message, started, -⟩ | ⟨outcomes, middle, text, -, gathers, done, shown, rfl, rfl⟩
  · -- The options file that was asked for loads, so the run comes to its files.
    exact absurd started (start_ne_message loads message)
  · have concludes := run_conclude terminal arguments outcomes middle
    simp only [shown] at concludes
    refine ⟨outcomes, middle, done, rfl, ?_⟩
    -- The parts of the report one by one, each by its own lemma.
    constructor
    · refine ⟨middle, text, gathers, concludes, rfl, shown, ?_⟩
      intro json
      simp only [reportText?, json, separate.inPlace, Bool.or_false, Option.some.injEq] at shown
      exact shown.symm
    · exact done.paths
    · intro outcome member
      rw [entry_written_iff]
      exact done.written_iff member
    · exact Summary.changed_eq outcomes
    · rw [← done.paths, List.length_map]
      exact Summary.total fun outcome member result own => done.sound member own
    · exact exitCode_toNat _ _

end Reports

end ImportOrder.Command
