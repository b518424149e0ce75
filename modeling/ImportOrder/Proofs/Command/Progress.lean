import ImportOrder.Proofs.Command.Footprint

/-! A run over files, step by step. Every file comes to what the files at the start make of it, as
long as no file that was written before matters for it; and every options file is loaded, and warned
about, once. -/

namespace ImportOrder.Command

open FileTree (Alike)

/-- What is written to the output for warnings on the way: the warnings about an options file, or the
warning of a sort. -/
inductive Notice
  | options (source : String)
  | sort (path : String)
deriving DecidableEq

namespace Notice

/-- A notice as it is written. -/
def text (files : FileTree) (config : Option String) : Notice → String
  | .options source => warningLines files source
  | .sort path => warningOf (verdict files config path)

/-- The options file that a notice is about. -/
def options? : Notice → Option String
  | .options source => some source
  | .sort _ => none

/-- The file whose sort a notice is about. -/
def sort? : Notice → Option String
  | .options _ => none
  | .sort path => some path

end Notice

/-- Notices as they are written, one after the other. -/
def noticesText (files : FileTree) (config : Option String) (notices : List Notice) : String :=
  String.join (notices.map (Notice.text files config))

/-- The notices about options files that were loaded. -/
def newsNotices (learned : Loaded) : List Notice := learned.map fun (source, _) => .options source

/-- The notices of a run over files that knows some options files from the start. -/
def notices (files : FileTree) (config : Option String) : Loaded → List String → List Notice
  | _, [] => []
  | loaded, path :: rest =>
    let learned := news files loaded (consulted? files config path)
    newsNotices learned ++ .sort path :: notices files config (learned ++ loaded) rest

section Notices

variable {files : FileTree} {config : Option String}

@[simp] theorem noticesText_nil : noticesText files config [] = "" := rfl

@[simp] theorem noticesText_cons (notice : Notice) (rest : List Notice) :
    noticesText files config (notice :: rest) =
      notice.text files config ++ noticesText files config rest := by
  simp [noticesText]

@[simp] theorem noticesText_append (first second : List Notice) :
    noticesText files config (first ++ second) =
      noticesText files config first ++ noticesText files config second := by
  simp [noticesText]

theorem noticesText_news (learned : Loaded) :
    noticesText files config (newsNotices learned) = newsText files learned := by
  simp [noticesText, newsNotices, newsText, Notice.text, Function.comp_def]

/-- An options file is loaded if it is not known and can be used, and else nothing is. -/
theorem news_cases (files : FileTree) (loaded : Loaded) (source? : Option String) :
    (news files loaded source? = [] ∧ ∀ source, source? = some source →
        loaded.lookup source ≠ none ∨ ∃ failure, vetted files source = .error failure) ∨
      ∃ source entries lines, source? = some source ∧ loaded.lookup source = none ∧
        vetted files source = .ok (entries, lines) ∧
        news files loaded source? = [(source, entries)] := by
  -- A file without an options file has nothing to load.
  cases source? with
  | none => exact .inl ⟨rfl, fun _ same => by cases same⟩
  | some source =>
    simp only [news, Option.some.injEq]
    cases cached : loaded.lookup source with
    | some old => exact .inl ⟨rfl, fun _ same => .inl (by simp [← same, cached])⟩
    | none =>
      cases vetting : vetted files source with
      | error failure => exact .inl ⟨rfl, fun _ same => .inr ⟨failure, by rw [← same, vetting]⟩⟩
      | ok usable => exact .inr ⟨source, usable.1, usable.2, rfl, cached, vetting, rfl⟩

/-- What is loaded is what the options files say. -/
theorem known_news {loaded : Loaded} (known : ∀ source, Known files loaded source)
    (source? : Option String) (source : String) :
    Known files (news files loaded source? ++ loaded) source := by
  rcases news_cases files loaded source? with
    ⟨nothing, -⟩ | ⟨new, entries, lines, -, -, usable, learned⟩
  · -- Nothing new is known.
    rw [nothing]
    exact known source
  · intro held found
    rw [learned, List.singleton_append, List.lookup_cons] at found
    -- An entry is the new one, or it was there before.
    split at found
    · rename_i same
      obtain rfl := eq_of_beq same
      exact ⟨lines, by rw [usable, Option.some.inj found]⟩
    · exact known source held found

section Learning

variable {loaded : Loaded} {source? : Option String} {asks : String → Prop} {later : List String}
  (behind : ∀ source, source ∈ later ↔
    (news files loaded source? ++ loaded).lookup source = none ∧ asks source ∧
      ∃ usable, vetted files source = .ok usable)

include behind

/-- An options file that is loaded now is known later, so it is not loaded then. -/
theorem mem_learned {source : String} :
    source ∈ (news files loaded source?).map Prod.fst ++ later ↔
      loaded.lookup source = none ∧ (source? = some source ∨ asks source) ∧
        ∃ usable, vetted files source = .ok usable := by
  rw [List.mem_append, behind]
  rcases news_cases files loaded source? with
    ⟨nothing, told⟩ | ⟨new, entries, lines, asked, unknown, usable, learned⟩
  · -- Nothing is loaded now, so it is not asked for now, or it cannot be used.
    rw [nothing, List.nil_append]
    constructor
    · rintro (none | ⟨unknown, asks, usable⟩)
      · simp at none
      · exact ⟨unknown, .inr asks, usable⟩
    · rintro ⟨unknown, asked | asks, usable, vetting⟩
      · rcases told source asked with cached | ⟨failure, refused⟩
        · exact absurd unknown cached
        · rw [refused] at vetting
          cases vetting
      · exact .inr ⟨unknown, asks, usable, vetting⟩
  · -- One options file is loaded now, and from now on it is known.
    rw [learned, List.singleton_append, List.lookup_cons]
    constructor
    · rintro (here | ⟨unknown', asks, vetting⟩)
      · obtain rfl : source = new := by simpa using here
        exact ⟨unknown, .inl asked, _, usable⟩
      · split at unknown'
        · cases unknown'
        · exact ⟨unknown', .inr asks, vetting⟩
    · rintro ⟨unknown', asked' | asks, vetting⟩
      · rw [asked] at asked'
        exact .inl (by simp [Option.some.inj asked'])
      · -- Asked for later, it is either the one just loaded or still unknown.
        by_cases same : source = new
        · exact .inl (by simp [same])
        · refine .inr ⟨?_, asks, vetting⟩
          rw [beq_eq_false_iff_ne.mpr same]
          exact unknown'

/-- No options file is loaded now and later. -/
theorem nodup_learned (once : later.Nodup) :
    ((news files loaded source?).map Prod.fst ++ later).Nodup := by
  rcases news_cases files loaded source? with ⟨nothing, -⟩ | ⟨new, entries, lines, -, -, -, learned⟩
  · -- Only what is loaded later is left.
    rw [nothing]
    exact once
  · rw [learned, List.map_singleton, List.singleton_append, List.nodup_cons]
    refine ⟨fun again => ?_, once⟩
    -- To be loaded later it would have to be unknown after it was loaded.
    have unknown := ((behind new).mp again).1
    simp [learned] at unknown

end Learning

theorem sort_newsNotices (learned : Loaded) :
    (newsNotices learned).filterMap Notice.sort? = [] := by
  simp [newsNotices, Notice.sort?, List.filterMap_map, Function.comp_def]

/-- Every sort has its notice. -/
theorem sort_notices (loaded : Loaded) (paths : List String) :
    (notices files config loaded paths).filterMap Notice.sort? = paths := by
  -- Notices about options files do not count, so each file adds its own path.
  induction paths generalizing loaded with
  | nil => rfl
  | cons path rest ih =>
    simp only [notices, List.filterMap_append, sort_newsNotices, List.nil_append]
    simp [Notice.sort?, ih]

theorem options_newsNotices (learned : Loaded) :
    (newsNotices learned).filterMap Notice.options? = learned.map Prod.fst := by
  simp [newsNotices, Notice.options?, List.filterMap_map, Function.comp_def]

/-- The options files that a run warns about: that of the first file if it is loaded, and then those
of the other files. -/
theorem options_notices_cons (loaded : Loaded) (path : String) (rest : List String) :
    let learned := news files loaded (consulted? files config path)
    (notices files config loaded (path :: rest)).filterMap Notice.options? =
      learned.map Prod.fst ++
        (notices files config (learned ++ loaded) rest).filterMap Notice.options? := by
  simp only [notices, List.filterMap_append, options_newsNotices]
  rfl

/-- The options files that a run warns about are those that it does not know and can use, and that a
file asks for. -/
theorem mem_options_notices {loaded : Loaded} {paths : List String} {source : String} :
    source ∈ (notices files config loaded paths).filterMap Notice.options? ↔
      loaded.lookup source = none ∧ (∃ path ∈ paths, consulted? files config path = some source) ∧
        ∃ usable, vetted files source = .ok usable := by
  -- The statement for the rest, with more known, is what a file learns against.
  induction paths generalizing loaded source with
  | nil => simp [notices]
  | cons path rest ih =>
    rw [options_notices_cons, mem_learned fun _ => ih, List.exists_mem_cons_iff]

/-- No options file is warned about twice. -/
theorem nodup_options_notices (loaded : Loaded) (paths : List String) :
    ((notices files config loaded paths).filterMap Notice.options?).Nodup := by
  induction paths generalizing loaded with
  | nil => exact .nil
  | cons path rest ih =>
    rw [options_notices_cons]
    -- What this file learns is known to all files behind it.
    exact nodup_learned (fun _ => mem_options_notices) (ih _)

end Notices

/-- What becomes of a file that the files at the start decide. -/
def settlement (files : FileTree) (arguments : Arguments) (path : String) :
    Except String SortResult × FileTree :=
  match verdict files arguments.config path with
  | .error _ => (.error "", files)
  | .ok (result, _) => settled arguments.check files path result

/-- Settling a file changes its own place at most. -/
theorem settlement_alike (files : FileTree) (arguments : Arguments) (path : String) :
    Alike (fun names => files.locate path = .ok names) files (settlement files arguments path).2 := by
  unfold settlement
  cases decided : verdict files arguments.config path with
  | error failure => exact .refl _ files
  | ok judgement =>
    obtain ⟨result, warning⟩ := judgement
    refine settled_alike ?_
    -- A file with a result was read, so writing it replaces a file.
    rintro sorted rfl
    exact read_of_verdict decided

/-- The end of a run over files that started with a tree and with some options files: the outcomes,
what the files hold, and what was written to the output for warnings. -/
structure Processed (files : FileTree) (arguments : Arguments) (loaded : Loaded)
    (paths : List String) (before after : Session) (outcomes : List Outcome) : Prop where
  outcomes : List.Forall₂ (fun path outcome => outcome.path = path ∧
    outcome.result.map SortResult.untimed =
      (settlement files arguments path).1.map SortResult.untimed) paths outcomes
  own : ∀ path ∈ paths, ∀ names, files.locate path = .ok names →
    after.files.entry? names = FileTree.entry? (settlement files arguments path).2 names
  others : Alike (fun names => ∃ path ∈ paths, files.locate path = .ok names) before.files after.files
  warnings : after.warnings = before.warnings ++
    noticesText files arguments.config (notices files arguments.config loaded paths)

/-- No file that comes earlier is at a place that matters for a later one. -/
def Undisturbed (files : FileTree) (config : Option String) (paths : List String) : Prop :=
  paths.Pairwise fun earlier later => ∀ names, files.locate earlier = .ok names →
    ¬Inspects files config later names

section Steps

variable {files : FileTree} {arguments : Arguments} {loaded : Loaded} {session : Session}
  {hidden : List Text → Prop}

/-- What is loaded for a file, and the warnings about it, depend on the places that matter only. -/
theorem news_eq (loaded : Loaded) {path : String} (alike : Alike hidden files session.files)
    (shown : ∀ names, Inspects files arguments.config path names → ¬hidden names) :
    let learned := news files loaded (consulted? files arguments.config path)
    news session.files loaded (consulted? session.files arguments.config path) = learned ∧
      newsText session.files learned = newsText files learned := by
  intro learned
  rw [← consulted?_eq alike shown]
  -- What is consulted is the same in both trees, and it is at a place that shows.
  cases consulted : consulted? files arguments.config path with
  | none => simp [learned, consulted, news, newsText]
  | some source =>
    have same := vetted_eq alike shown consulted
    have learns : news session.files loaded (some source) = news files loaded (some source) := by
      simp only [news, same]
    refine ⟨by rw [learns]; simp only [learned, consulted], ?_⟩
    -- The only warnings are those about the options file of this file.
    simp only [learned, consulted]
    rcases news_cases files loaded (some source) with
      ⟨nothing, -⟩ | ⟨new, entries, lines, asked, -, -, learned⟩
    · simp [nothing, newsText]
    · obtain rfl := Option.some.inj asked
      simp [learned, newsText, warningLines, same]

/-- One file of a run, where only places that do not matter for the file have changed since the
start. -/
theorem run_runFile_alike {path : String} (alike : Alike hidden files session.files)
    (shown : ∀ names, Inspects files arguments.config path names → ¬hidden names)
    (known : ∀ source, Known files loaded source) (quiet : Quiet files arguments.config path) :
    match verdict files arguments.config path with
    | .error failure => ((runFile arguments loaded path).run session).1 = .error failure
    | .ok _ => ∃ outcome later, (runFile arguments loaded path).run session =
          (.ok (outcome, news files loaded (consulted? files arguments.config path) ++ loaded), later) ∧
        Processed files arguments loaded [path] session later [outcome] := by
  -- What was known at the start is still what the options file of this file says.
  have knownNow : ∀ source, consulted? session.files arguments.config path = some source →
      Known session.files loaded source := by
    intro source consulted entries cached
    rw [← consulted?_eq alike shown] at consulted
    obtain ⟨lines, usable⟩ := known source entries cached
    exact ⟨lines, by rw [← vetted_eq alike shown consulted, usable]⟩
  -- The run is told on the tree as it is now, and is then carried back to the start.
  have ran := run_runFile knownNow (quiet_of_alike alike shown quiet)
  obtain ⟨learns, warns⟩ := news_eq loaded alike shown
  simp only [← verdict_eq alike shown, learns, warns] at ran
  cases decided : verdict files arguments.config path with
  | error failure => simpa only [decided] using ran
  | ok judgement =>
    obtain ⟨result, warning⟩ := judgement
    simp only [decided] at ran
    obtain ⟨outcome, clock, ran, named, same⟩ := ran
    refine ⟨outcome, _, ran, ?_⟩
    have settles : settlement files arguments path = settled arguments.check files path result := by
      simp only [settlement, decided]
    -- The result was had on the tree as it is now, so the file can be read there.
    have readable : ∀ sorted, result = .ok sorted →
        ∃ content, session.files.read path = .ok content := by
      rintro sorted rfl
      rw [verdict_eq alike shown] at decided
      exact read_of_verdict decided
    refine ⟨.cons ⟨named, ?_⟩ .nil, ?_, ?_, ?_⟩
    · -- What becomes of it is the same as at the start.
      rw [same, settles, settled_fst_eq alike]
    · intro other member names located
      obtain rfl := List.mem_singleton.mp member
      rw [settles]
      exact (settled_entry_eq alike located (shown names (.inl located))).symm
    · refine (settled_alike readable).mono fun names located => ?_
      exact ⟨path, List.mem_singleton_self path, by rw [alike.locate, located]⟩
    · -- The options file is told of first, and then the sort.
      show session.warnings ++ _ = _
      have told : Notice.text files arguments.config (.sort path) = warning := by
        simp [Notice.text, decided, warningOf, Except.toOption]
      simp [notices, noticesText_news, told]

/-- Work on one file, and then on others. -/
theorem Processed.cons {path : String} {rest : List String} {middle later : Session}
    {outcome : Outcome} {outcomes : List Outcome}
    (undisturbed : Undisturbed files arguments.config (path :: rest))
    (first : Processed files arguments loaded [path] session middle [outcome])
    (others : Processed files arguments
      (news files loaded (consulted? files arguments.config path) ++ loaded) rest middle later
      outcomes) :
    Processed files arguments loaded (path :: rest) session later (outcome :: outcomes) where
  outcomes := .cons (List.forall₂_cons.mp first.outcomes).1 others.outcomes
  own := by
    obtain ⟨clear, -⟩ := List.pairwise_cons.mp undisturbed
    intro other member names located
    rcases List.mem_cons.mp member with rfl | behind
    · -- The files behind are at other places.
      rw [← first.own other (List.mem_singleton_self other) names located]
      refine (others.others.visible names ?_).symm
      rintro ⟨late, inRest, same⟩
      exact clear late inRest names located (.inl same)
    · exact others.own other behind names located
  others := by
    -- What one of the two steps may change is the place of one of the files.
    refine (first.others.trans others.others).mono ?_
    rintro names (⟨other, member, located⟩ | ⟨other, member, located⟩)
    · exact ⟨other, List.mem_cons.mpr (.inl (List.mem_singleton.mp member)), located⟩
    · exact ⟨other, List.mem_cons_of_mem _ member, located⟩
  warnings := by
    rw [others.warnings, first.warnings]
    simp [notices, String.append_assoc]

/-- A run over files ends well if the files at the start decide all of them, and else with the failure
of one that they do not decide. -/
theorem run_runFiles {paths : List String} (alike : Alike hidden files session.files)
    (shown : ∀ path ∈ paths, ∀ names, Inspects files arguments.config path names → ¬hidden names)
    (undisturbed : Undisturbed files arguments.config paths)
    (known : ∀ source, Known files loaded source)
    (quiet : ∀ path ∈ paths, Quiet files arguments.config path) :
    (∃ outcomes later, (runFiles arguments loaded paths).run session = (.ok outcomes, later) ∧
        Processed files arguments loaded paths session later outcomes ∧
        ∀ path ∈ paths, ∃ judgement, verdict files arguments.config path = .ok judgement) ∨
      ∃ failure, ((runFiles arguments loaded paths).run session).1 = .error failure ∧
        ∃ path ∈ paths, verdict files arguments.config path = .error failure := by
  -- Each step hides the place of one more file, which no file behind it looks at.
  induction paths generalizing loaded session hidden with
  | nil => exact .inl ⟨[], session, rfl, ⟨.nil, by simp, .refl _ _, by simp [notices]⟩, by simp⟩
  | cons path rest ih =>
    obtain ⟨clear, further⟩ := List.pairwise_cons.mp undisturbed
    have step := run_runFile_alike alike (shown path List.mem_cons_self) known
      (quiet path List.mem_cons_self)
    cases decided : verdict files arguments.config path with
    -- A failure ends the run at once, with the files behind it left alone.
    | error failure =>
      simp only [decided] at step
      refine .inr ⟨failure, ?_, path, List.mem_cons_self, decided⟩
      simp only [runFiles, Job.run_bind]
      rcases ran : (runFile arguments loaded path).run session with ⟨result, later⟩
      rw [ran] at step
      obtain rfl : result = .error failure := step
      rfl
    | ok judgement =>
      simp only [decided] at step
      obtain ⟨outcome, middle, ran, first⟩ := step
      -- A file behind looks neither at the places hidden before nor at that of this file.
      have shownBehind : ∀ other ∈ rest, ∀ names, Inspects files arguments.config other names →
          ¬(hidden names ∨ ∃ done ∈ [path], files.locate done = .ok names) := by
        rintro other member names inspects (before | ⟨done, here, located⟩)
        · exact shown other (List.mem_cons_of_mem _ member) names inspects before
        · rw [List.mem_singleton.mp here] at located
          exact clear other member names located inspects
      rcases ih (alike.trans first.others) shownBehind further (known_news known _)
          (fun other member => quiet other (List.mem_cons_of_mem _ member)) with
        ⟨outcomes, later, rest_ran, others, all⟩ | ⟨failure, failed, other, member, undecided⟩
      · refine .inl ⟨outcome :: outcomes, later, ?_, first.cons undisturbed others,
          List.forall_mem_cons.mpr ⟨⟨judgement, decided⟩, all⟩⟩
        simp only [runFiles, Job.run_bind, ran, rest_ran]
        rfl
      · refine .inr ⟨failure, ?_, other, List.mem_cons_of_mem _ member, undecided⟩
        simp only [runFiles, Job.run_bind, ran]
        rcases rest_ran : (runFiles arguments _ rest).run middle with ⟨result, later⟩
        rw [rest_ran] at failed
        obtain rfl : result = .error failure := failed
        rfl

end Steps

end ImportOrder.Command
