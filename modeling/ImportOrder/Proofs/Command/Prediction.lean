import ImportOrder.Proofs.Command.Account

/-! A check tells what a write run from the same files does: the files that would change are those
that the write run rewrites or fails to write. -/

namespace ImportOrder.Command

section Prediction

/-- What a check saw of a file tells what a write run does: a file that would change is rewritten with
the text of the result, or it cannot be written. Else both come to the same, apart from the time that
the sort takes. -/
structure Foretold (before after : FileTree) (seen done : Outcome) : Prop where
  path : done.path = seen.path
  changed : seen.changed = true ↔
    (∃ result, seen.result = .ok result ∧ Rewrites before after seen.path result.source) ∨
      ∃ error, done.result = .error (writeFailure seen.path error)
  otherwise : (∀ error, done.result ≠ .error (writeFailure seen.path error)) →
    done.untimed = seen.untimed

variable {checking writing : Arguments} {before before' middle middle' : Session}
  {seen done : List Outcome}

/-- A check leaves every place as it was. -/
theorem Gathered.unchanged (saw : Gathered checking before middle seen)
    (checks : checking.check = true) (names : List Text) :
    middle.files.entry? names = before.files.entry? names := by
  by_cases own : ∃ path ∈ checking.files, before.files.locate path = .ok names
  · -- What a check settles at the place of a file is what was there.
    obtain ⟨path, member, located⟩ := own
    obtain ⟨⟨result, warning⟩, decided⟩ := saw.decided path member
    rw [saw.own path member names located]
    simp only [settlement, decided, checks, settled_check]
  · exact (saw.others.visible names own).symm

/-- A place that a run changes is that of a file that it changes. -/
theorem Gathered.differs (did : Gathered writing before' middle' done) {names : List Text}
    (differs : middle'.files.entry? names ≠ before'.files.entry? names) :
    ∃ outcome ∈ done, before'.files.locate outcome.path = .ok names ∧
      middle'.files.read outcome.path ≠ before'.files.read outcome.path := by
  -- Outside the places of its files a run changes nothing.
  have own : ∃ path ∈ writing.files, before'.files.locate path = .ok names := by
    by_contra elsewhere
    exact differs (did.others.visible names elsewhere).symm
  obtain ⟨path, member, located⟩ := own
  rw [← did.paths] at member
  obtain ⟨outcome, inDone, rfl⟩ := List.mem_map.mp member
  -- If the file read the same, its place would hold the same.
  refine ⟨outcome, inDone, located, fun same => differs ?_⟩
  rw [did.others.locate] at located
  exact FileTree.entry?_eq_of_read located (by rw [did.others.locate, located]) same

/-- A check foretells what a write run on the same files does. -/
theorem Gathered.foretold (saw : Gathered checking before middle seen)
    (did : Gathered writing before' middle' done) (checks : checking.check = true)
    (writes : writing.check = false) (config : writing.config = checking.config)
    (same : before'.files = before.files) {first second : Outcome} (inSeen : first ∈ seen)
    (inDone : second ∈ done) (path : second.path = first.path) :
    Foretold before.files middle'.files first second := by
  obtain ⟨result, warning, milliseconds, decided, timed, -⟩ := saw.settles inSeen
  obtain ⟨result', warning', milliseconds', decided', timed', read⟩ := did.settles inDone
  -- Both runs come to the same verdict on the file.
  rw [config, same, path, decided] at decided'
  cases decided'
  rw [checks, settled_check] at timed
  rw [same, writes, path] at timed' read
  have shown := changed_iff timed
  rcases settled_cases false before.files first.path result with
    ⟨kept, alike⟩ | ⟨sorted, -, rfl, changed, ⟨error, failed⟩ | ⟨written, wrote, settles⟩⟩
  · -- Nothing is written: the text is the same, or there was a message before it came to writing.
    rw [kept] at timed' read
    refine ⟨path, ⟨fun changed => ?_, ?_⟩, fun _ => ?_⟩
    · obtain ⟨sorted, own, changed⟩ := shown.mp changed
      rw [alike rfl sorted own] at changed
      cases changed
    · rintro (⟨_, -, differs, now⟩ | ⟨error, failed⟩)
      · exact absurd (read ▸ now) differs
      · rw [timed'] at failed
        cases result with
        | error message =>
          exact absurd (Except.error.inj failed) (message_ne_writeFailure decided first.path error)
        | ok sorted => cases failed
    · rw [untimed_of_timed timed', untimed_of_timed timed, path]
  · -- The text differs, and it cannot be written.
    rw [failed] at timed'
    refine ⟨path, ⟨fun _ => .inr ⟨error, timed'⟩, fun _ => shown.mpr ⟨sorted, rfl, changed⟩⟩, ?_⟩
    intro fine
    exact absurd timed' (fine error)
  · -- The text differs, and it is written.
    rw [settles] at timed' read
    refine ⟨path, ⟨fun _ => .inl ⟨_, timed, ?_⟩, fun _ => shown.mpr ⟨sorted, rfl, changed⟩⟩,
      fun _ => ?_⟩
    · obtain ⟨differs, now⟩ := rewrites_of_write decided changed wrote
      exact ⟨differs, read.trans now⟩
    · rw [untimed_of_timed timed', untimed_of_timed timed, path]

/-- Outcomes of the same files in the same order stand side by side. -/
theorem forall₂_foretold {after : FileTree} (paths : seen.map Outcome.path = done.map Outcome.path)
    (foretold : ∀ first ∈ seen, ∀ second ∈ done, second.path = first.path →
      Foretold before.files after first second) :
    List.Forall₂ (Foretold before.files after) seen done := by
  -- The paths are the same list, so the outcomes can be paired.
  have named : List.Forall₂ (fun first second => first.path = second.path) seen done := by
    have equal : List.Forall₂ (· = ·) (seen.map Outcome.path) (done.map Outcome.path) := by
      rw [List.forall₂_eq_eq_eq, paths]
    rwa [List.forall₂_map_left_iff, List.forall₂_map_right_iff] at equal
  rw [List.forall₂_iff_zip] at named ⊢
  refine ⟨named.1, fun {first second} beside => ?_⟩
  obtain ⟨inSeen, inDone⟩ := List.of_mem_zip beside
  exact foretold first inSeen second inDone (named.2 beside).symm

/-- Files are separate in both modes. -/
theorem Separate.mode {files : FileTree} {arguments : Arguments} (separate : Separate files arguments)
    (check : Bool) : Separate files { arguments with check } :=
  ⟨separate.inPlace, separate.apart, separate.noConfiguration, separate.quiet⟩

/-- A check predicts a write run from the same files: it leaves everything as it was, the files that
it counts as changed are those that the write run rewrites or fails to write, and all other places
stay as they are. Both runs report what they did. -/
theorem check_predicts_write {terminal : Bool} {input : Text} {arguments : Arguments}
    {before before' after after' : Session} {code code' : ExitCode}
    (separate : Separate before.files arguments)
    (loads : ∀ source, explicit? arguments.config = some source →
      ∃ entries, Project.loadOptions before.files source = .ok entries)
    (same : before'.files = before.files)
    (checked : (run terminal input { arguments with check := true }).run before = (.ok code, after))
    (wrote : (run terminal input { arguments with check := false }).run before' =
      (.ok code', after')) :
    ∃ seen done,
      Reported terminal input { arguments with check := true } before after code seen ∧
      Reported terminal input { arguments with check := false } before' after' code' done ∧
      (∀ names, after.files.entry? names = before.files.entry? names) ∧
      List.Forall₂ (Foretold before.files after'.files) seen done ∧
      ∀ names, after'.files.entry? names ≠ before.files.entry? names →
        ∃ outcome ∈ seen, ∃ result, outcome.result = .ok result ∧
          before.files.locate outcome.path = .ok names ∧
          Rewrites before.files after'.files outcome.path result.source := by
  obtain ⟨seen, middle, saw, files, report⟩ := (separate.mode true).reported loads checked
  rw [← same] at separate loads
  obtain ⟨done, middle', did, files', report'⟩ := (separate.mode false).reported loads wrote
  -- The two runs start from the same files, so one verdict serves both.
  have foretold : ∀ first ∈ seen, ∀ second ∈ done, second.path = first.path →
      Foretold before.files middle'.files first second := fun _ inSeen _ inDone =>
    saw.foretold did rfl rfl rfl same inSeen inDone
  refine ⟨seen, done, report, report', ?_, ?_, ?_⟩
  · rw [files]
    exact saw.unchanged rfl
  · rw [files']
    exact forall₂_foretold (report.paths.trans report'.paths.symm) foretold
  · intro names differs
    rw [files', ← same] at differs
    obtain ⟨second, inDone, located, reads⟩ := did.differs differs
    -- The file was written, so it has a result in the end, and the check saw that.
    have named : second.path ∈ seen.map Outcome.path := by
      rw [report.paths.trans report'.paths.symm]
      exact List.mem_map_of_mem inDone
    obtain ⟨first, inSeen, path⟩ := List.mem_map.mp named
    have tells := foretold first inSeen second inDone path.symm
    obtain ⟨changed, -⟩ := (did.written_iff inDone).mpr reads
    -- An outcome that changed a file is no failure to write it.
    have fine : ∀ error, second.result ≠ .error (writeFailure first.path error) := by
      intro error failed
      simp [Outcome.changed, Outcome.result?, failed, Except.toOption] at changed
    rw [← Outcome.changed_untimed, tells.otherwise fine, Outcome.changed_untimed] at changed
    rcases tells.changed.mp changed with ⟨result, own, rewrites⟩ | ⟨error, failed⟩
    · refine ⟨first, inSeen, result, own, ?_, ?_⟩
      · rw [path, ← same, located]
      · rwa [files']
    · exact absurd failed (fine error)

/-- On the shelf, a check sees two files that would change; one of them is rewritten and the other
cannot be written. -/
theorem check_predicts_write_shelf :
    ∃ seen done after after',
      (run false [] { shelved with check := true }).run { files := shelf } = (.ok .error, after) ∧
      (run false [] { shelved with check := false }).run { files := shelf } = (.ok .error, after') ∧
      seen.countP Outcome.changed = 2 ∧ done.countP Outcome.changed = 1 ∧
      List.Forall₂ (Foretold shelf after'.files) seen done := by
  -- The locked file makes the write run end with a failure, and the missing one both runs.
  have checked := ended_of_code (show ((run false [] { shelved with check := true }).run
    { files := shelf }).1.toOption = some .error by decide +kernel)
  have wrote := ended_of_code (show ((run false [] { shelved with check := false }).run
    { files := shelf }).1.toOption = some .error by decide +kernel)
  have unasked : ∀ source, explicit? shelved.config = some source →
      ∃ entries, Project.loadOptions shelf source = .ok entries := fun _ asked => by cases asked
  obtain ⟨seen, done, report, report', -, foretold, -⟩ :=
    check_predicts_write shelf_separate unasked rfl checked wrote
  exact ⟨seen, done, _, _, checked, wrote, report.countP_eq (by decide +kernel),
    report'.countP_eq (by decide +kernel), foretold⟩

end Prediction

end ImportOrder.Command
