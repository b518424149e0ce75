import ImportOrder.Proofs.FileTree.Growth
import ImportOrder.Proofs.Json.RoundTrip
import ImportOrder.Report.Log

/-! The log over many sorts. Each call adds one line behind what the log holds and touches no other
file, or it fails and adds nothing: a number can be too long to be written, and the log can be at no
place where it could be. So the log is its earlier content followed by one line for each call that
succeeds, in the order of the calls. A line is printable ASCII up to the line break that ends it, and
it reads back as its entry. -/

namespace ImportOrder

namespace LogEntry

theorem numbers_toDocument (entry : LogEntry) : Json.numbers entry.toDocument = entry.counts := by
  simp [toDocument, Settings.table, Json.numbers, Json.entryNumbers, counts]

/-- An entry has texts and whole numbers under nine different names. -/
theorem portable_toDocument (entry : LogEntry) : Json.Portable entry.toDocument := by
  refine Json.portable_table (show List.Nodup ["timestamp", "event", "file", "status", "imports",
    "groups", "code_length_lines", "code_hash", "sort_ms"] by decide) ?_
  simp only [List.forall_mem_cons]
  exact ⟨.text _, .text _, .text _, .text _, .int _, .int _, .int _, .text _, .int _,
    fun entry member => nomatch member⟩

/-- The line of an entry prints up to its end. -/
theorem printing_line (entry : LogEntry) :
    ∃ body, entry.line = body ++ ['\n'] ∧ Json.Printing body :=
  ⟨_, rfl, Json.printing_line entry.portable_toDocument⟩

theorem isLong_eq_false_iff {entry : LogEntry} :
    entry.isLong = false ↔ ∀ n ∈ entry.counts, n.natAbs < 10 ^ maxIntegerDigits := by
  simp only [isLong, List.any_eq_false, decide_eq_true_eq, Nat.pow_eq, Nat.not_le]

/-- The line of an entry reads back as the entry, if its numbers are short enough to be written. -/
theorem read_line {entry : LogEntry} (short : entry.isLong = false) :
    Json.read entry.line = .ok entry.toDocument := by
  -- The line break behind the document is white space, so all is read that the numbers let be read.
  have read : (Json.read entry.line).toOption = Json.held entry.counts entry.toDocument := by
    rw [← numbers_toDocument]
    exact Json.read_line entry.portable_toDocument
      (List.forall_mem_singleton.mpr (show Json.isSpace '\n' = true from rfl))
  rw [Json.held, if_pos (isLong_eq_false_iff.mp short)] at read
  cases done : Json.read entry.line with
  | error fault => simp [done, Except.toOption] at read
  | ok document =>
    rw [done] at read
    exact congrArg Except.ok (Option.some.inj read)

end LogEntry

namespace Log

/-- A sort that is reported to the log, with the time of the report. -/
structure Call where
  timestamp : String
  path : String
  status : String
  imports : Int
  groups : Int
  source : Text
  milliseconds : Int

/-- The entry of a call. -/
def Call.entry (call : Call) : LogEntry :=
  .ofSort call.timestamp call.path call.status call.imports call.groups call.source
    call.milliseconds

/-- The lines of some calls, in their order. -/
def lines (calls : List Call) : Text := calls.flatMap fun call => call.entry.line

/-- The calls whose numbers can be written. -/
def writable (calls : List Call) : List Call := calls.filter fun call => !call.entry.isLong

/-- Report sorts one after the other. Every call has its own result, and a call that fails does not
keep the next one from being made. -/
def recordAll (directory : String) : FileTree → List Call → FileTree × List (Except Failure Unit)
  | files, [] => (files, [])
  | files, call :: rest =>
    -- The next call finds the files as the first one leaves them, whether it has failed or not.
    let first := record files directory call.entry
    let later := recordAll directory first.1 rest
    (later.1, first.2 :: later.2)

/-- Where the log in a directory is written once the directory is made, if it can be written. -/
def place? (files : FileTree) (directory : String) : Option (List Text) :=
  if PathText.hasNull directory.toList then none
  else
    -- Whether the file can be opened is asked in the tree that has the directory.
    (makeDirectory files directory).toOption.bind fun grown =>
      (grown.writable (fileIn directory).toString).toOption

/-- The log in a directory has a text more, no other file has changed, and the log can be written as
well as before. -/
structure Adds (directory : String) (files after : FileTree) (text : Text) : Prop where
  -- Keeping the place is what lets calls be put one behind the other.
  place : place? after directory = place? files directory
  contents : ∀ names, after.contentAt names =
    files.contentAt names ++ if place? files directory = some names then Utf8.encode text else []

namespace Adds

variable {directory : String} {files next after : FileTree} {first second : Text}

theorem refl (files : FileTree) : Adds directory files files [] :=
  ⟨rfl, fun names => by simp [Utf8.encode]⟩

/-- What is added later stands behind what is added first. -/
theorem trans (left : Adds directory files next first) (right : Adds directory next after second) :
    Adds directory files after (first ++ second) where
  place := right.place.trans left.place
  -- What the second call adds goes to the place that the first one has kept.
  contents names := by
    rw [right.contents, left.contents, left.place, List.append_assoc]
    split
    · rw [Utf8.encode_append]
    · rfl

/-- A log that cannot be written has no text more, whatever it was to have. -/
theorem of_none (adds : Adds directory files after first) (nowhere : place? files directory = none)
    (text : Text) : Adds directory files after text where
  place := adds.place
  contents names := by simpa [nowhere] using adds.contents names

end Adds

section Calls

variable {directory : String} {files grown : FileTree} {names : List Text} {entry : LogEntry}

/-- The log can be written at a place if its directory has a name that can be made, and the file can
be opened there. -/
theorem place?_eq_some_iff : place? files directory = some names ↔
    PathText.hasNull directory.toList = false ∧ ∃ grown, makeDirectory files directory = .ok grown ∧
      grown.writable (fileIn directory).toString = .ok names := by
  -- The three cases are those of a call: no name, no directory, no file.
  unfold place?
  cases PathText.hasNull directory.toList with
  | true => simp
  | false =>
    cases makeDirectory files directory with
    | error error => simp [Except.toOption]
    | ok grown =>
      cases opened : grown.writable (fileIn directory).toString <;> simp [Except.toOption, opened]

/-- In a directory that is there only the file of the log is asked for. -/
theorem place?_of_isDirectory (clear : PathText.hasNull directory.toList = false)
    (there : files.isDirectory (Path.ofString directory).toString = true) :
    place? files directory = (files.writable (fileIn directory).toString).toOption := by
  have same : makeDirectory files directory = .ok files :=
    FileTree.makeDirectories_of_isDirectory there _
  rw [place?, clear, same]
  rfl

/-- A directory that is made leaves the log where it is and what it holds. -/
theorem adds_makeDirectory (clear : PathText.hasNull directory.toList = false)
    (made : makeDirectory files directory = .ok grown) : Adds directory files grown [] := by
  have makes := FileTree.makes_of_makeDirectories made
  refine ⟨?_, fun names => by simp [makes.contents, Utf8.encode]⟩
  -- Once it is there the directory is not made again.
  rw [place?_of_isDirectory clear makes.made, place?, clear, made]
  rfl

/-- Adding to the log in a directory that is there lets the log have more, at the same place. -/
theorem adds_put (clear : PathText.hasNull directory.toList = false)
    (there : grown.isDirectory (Path.ofString directory).toString = true)
    (writable : grown.writable (fileIn directory).toString = .ok names) (text : Text) :
    Adds directory grown
      (grown.put names (.file (grown.contentAt names ++ Utf8.encode text))) text := by
  -- The directory is there before and after.
  have before := place?_of_isDirectory clear there
  have grows := FileTree.Grows.put (FileTree.target_of_writable writable)
    (.file (grown.contentAt names ++ Utf8.encode text))
  -- The place is asked for again behind the writing, in a directory that is still there.
  refine ⟨?_, ?_⟩
  · rw [place?_of_isDirectory clear (grows.isDirectory there), before, writable,
      FileTree.writable_put writable]
  · intro other
    rw [before, writable, FileTree.contentAt_put writable]
    by_cases same : other = names
    · simp [same, Except.toOption]
    · simp [same, Ne.symm same, Except.toOption]

/-- The line of an entry is put behind what the log holds, if the file can be written. -/
theorem append_eq (grown : FileTree) (entry : LogEntry) : append grown directory entry =
    (grown.writable (fileIn directory).toString).map fun names =>
      grown.put names (.file (grown.contentAt names ++ Utf8.encode entry.line)) := by
  unfold append
  exact FileTree.append_eq _ _

/-- A call in a directory with a name: once the directory is made, the line is written out, and then
it is put behind what the log holds. -/
theorem record_eq (named : directory ≠ "") (clear : PathText.hasNull directory.toList = false)
    (made : makeDirectory files directory = .ok grown) (entry : LogEntry) :
    record files directory entry =
      if entry.isLong then (grown, .error .longInteger)
      else
        match grown.writable (fileIn directory).toString with
        | .error error => (grown, .error (.file error (fileIn directory).toString))
        | .ok names =>
          (grown.put names (.file (grown.contentAt names ++ Utf8.encode entry.line)), .ok ()) := by
  unfold record
  rw [if_neg (by simpa using named), clear, if_neg (by simp), made]
  simp only [append_eq]
  cases grown.writable (fileIn directory).toString <;> rfl

/-- Where the log has no place, a call fails and adds nothing to any file. -/
theorem record_nowhere (named : directory ≠ "") (nowhere : place? files directory = none)
    (entry : LogEntry) : Adds directory files (record files directory entry).1 [] ∧
      (record files directory entry).2.isOk = false := by
  cases clear : PathText.hasNull directory.toList with
  | true =>
    rw [record, if_neg (by simpa using named), if_pos clear]
    exact ⟨.refl files, rfl⟩
  | false =>
    -- Either the directory cannot be made, and all is as it was, or the file cannot be opened.
    cases made : makeDirectory files directory with
    | error error =>
      rw [record, if_neg (by simpa using named), if_neg (by simp [clear]), made]
      exact ⟨.refl files, rfl⟩
    | ok grown =>
      have adds := adds_makeDirectory clear made
      rw [record_eq named clear made]
      split
      · exact ⟨adds, rfl⟩
      · cases opened : grown.writable (fileIn directory).toString with
        | error error => exact ⟨adds, rfl⟩
        | ok names =>
          rw [place?_eq_some_iff.mpr ⟨clear, grown, made, opened⟩] at nowhere
          cases nowhere

/-- Where the log has a place, a call succeeds if and only if its numbers can be written. -/
theorem record_result (named : directory ≠ "") (leads : place? files directory = some names)
    (entry : LogEntry) : (record files directory entry).2 =
      if entry.isLong then .error .longInteger else .ok () := by
  obtain ⟨clear, grown, made, opened⟩ := place?_eq_some_iff.mp leads
  rw [record_eq named clear made, opened]
  split <;> rfl

/-- One call adds the line of its entry, if its numbers can be written, and else nothing. -/
theorem record_adds (named : directory ≠ "") (files : FileTree) (entry : LogEntry) :
    Adds directory files (record files directory entry).1
      (if entry.isLong then [] else entry.line) := by
  -- Where the log has no place the call has failed, and nothing is what any text adds there.
  cases leads : place? files directory with
  | none => exact (record_nowhere named leads entry).1.of_none leads _
  | some names =>
    obtain ⟨clear, grown, made, opened⟩ := place?_eq_some_iff.mp leads
    have adds := adds_makeDirectory clear made
    have there := (FileTree.makes_of_makeDirectories made).made
    rw [record_eq named clear made, opened]
    -- The directory is made before the line is written out, so it is there even if the line is not.
    split
    · exact adds
    · exact adds.trans (adds_put clear there opened entry.line)

/-- The directory of the log is there, and the log reads as what is at its place. -/
structure Settled (directory : String) (files : FileTree) (names : List Text) : Prop where
  there : files.isDirectory (Path.ofString directory).toString = true
  reads : files.read (fileIn directory).toString = .ok (files.contentAt names)

/-- A call that succeeds leaves a log that can be read. -/
theorem settled_record (named : directory ≠ "") (leads : place? files directory = some names)
    (short : entry.isLong = false) : Settled directory (record files directory entry).1 names := by
  -- The directory was made by this call or earlier; writing into it leaves it there.
  obtain ⟨clear, grown, made, opened⟩ := place?_eq_some_iff.mp leads
  have there := (FileTree.makes_of_makeDirectories made).made
  have grows := FileTree.Grows.put (FileTree.target_of_writable opened)
    (.file (grown.contentAt names ++ Utf8.encode entry.line))
  rw [record_eq named clear made, if_neg (by simp [short]), opened]
  refine ⟨grows.isDirectory there, ?_⟩
  rw [FileTree.read_put opened, FileTree.contentAt_put opened, if_pos rfl]

/-- A log that can be read can be read behind every call. -/
theorem Settled.record (settled : Settled directory files names) (named : directory ≠ "")
    (leads : place? files directory = some names) (entry : LogEntry) :
    Settled directory (record files directory entry).1 names := by
  cases long : entry.isLong with
  | false => exact settled_record named leads long
  | true =>
    -- The directory is not made again, and nothing is written.
    have same : makeDirectory files directory = .ok files :=
      FileTree.makeDirectories_of_isDirectory settled.there _
    obtain ⟨clear, -⟩ := place?_eq_some_iff.mp leads
    rw [record_eq named clear same, if_pos long]
    exact settled

end Calls

section Runs

variable {directory : String} {files : FileTree} {names : List Text}

/-- The calls behind the first one find what it leaves. -/
theorem fst_recordAll_cons (directory : String) (files : FileTree) (call : Call)
    (rest : List Call) : (recordAll directory files (call :: rest)).1 =
      (recordAll directory (record files directory call.entry).1 rest).1 :=
  rfl

/-- Calls add their lines in their order. -/
theorem recordAll_adds (named : directory ≠ "") (files : FileTree) (calls : List Call) :
    Adds directory files (recordAll directory files calls).1 (lines (writable calls)) := by
  -- The induction is on the calls, for any files: the next one starts from what the first one
  -- leaves.
  induction calls generalizing files with
  | nil => exact .refl files
  | cons call rest ih =>
    have spelled : lines (writable (call :: rest)) =
        (if call.entry.isLong then [] else call.entry.line) ++ lines (writable rest) := by
      unfold writable lines
      cases long : call.entry.isLong <;> simp [long]
    rw [spelled]
    exact (record_adds named files call.entry).trans (ih _)

/-- Where the log has a place, each call succeeds if and only if its numbers can be written. -/
theorem recordAll_results (named : directory ≠ "") (leads : place? files directory = some names)
    (calls : List Call) : (recordAll directory files calls).2 =
      calls.map fun call => if call.entry.isLong then .error .longInteger else .ok () := by
  -- A call leaves the log where it is, so the next one comes to the same place.
  induction calls generalizing files with
  | nil => rfl
  | cons call rest ih =>
    have again := (record_adds named files call.entry).place.trans leads
    simp only [recordAll, record_result named leads, ih again, List.map_cons]

/-- Where the log has no place, every call fails. -/
theorem recordAll_nowhere (named : directory ≠ "") (nowhere : place? files directory = none)
    (calls : List Call) : ∀ result ∈ (recordAll directory files calls).2, result.isOk = false := by
  -- A call that fails gives the log no place either, so the next one fails too.
  induction calls generalizing files with
  | nil => simp [recordAll]
  | cons call rest ih =>
    have again := (record_adds named files call.entry).place.trans nowhere
    exact List.forall_mem_cons.mpr ⟨(record_nowhere named nowhere call.entry).2, ih again⟩

/-- Every call has a result. -/
theorem length_recordAll (directory : String) (files : FileTree) (calls : List Call) :
    (recordAll directory files calls).2.length = calls.length := by
  induction calls generalizing files with
  | nil => rfl
  | cons call rest ih => simp only [recordAll, List.length_cons, ih]

/-- A log that can be read can be read behind all calls. -/
theorem Settled.recordAll (settled : Settled directory files names) (named : directory ≠ "")
    (leads : place? files directory = some names) (calls : List Call) :
    Settled directory (recordAll directory files calls).1 names := by
  -- Each call needs the place that the earlier ones have kept.
  induction calls generalizing files with
  | nil => exact settled
  | cons call rest ih =>
    rw [fst_recordAll_cons]
    exact ih (settled.record named leads call.entry)
      ((record_adds named files call.entry).place.trans leads)

/-- A log that some call adds to reads as what is at its place. -/
theorem read_recordAll (named : directory ≠ "") {calls : List Call} (some_call : writable calls ≠ [])
    (leads : place? files directory = some names) :
    (recordAll directory files calls).1.read (fileIn directory).toString =
      .ok ((recordAll directory files calls).1.contentAt names) := by
  -- The induction goes up to the first call that adds a line. From then on the log can be read.
  induction calls generalizing files with
  | nil => exact absurd rfl some_call
  | cons call rest ih =>
    rw [fst_recordAll_cons]
    have again := (record_adds named files call.entry).place.trans leads
    cases long : call.entry.isLong with
    | true => exact ih (by simpa [writable, long] using some_call) again
    | false => exact ((settled_record named leads long).recordAll named again rest).reads

/-- A log that can be read is read at its place. -/
theorem contentAt_of_read {content : Bytes} (leads : place? files directory = some names)
    (read : files.read (fileIn directory).toString = .ok content) :
    files.contentAt names = content := by
  -- The place is where the log can be written in the grown files, and the text was read in the
  -- files before. Growing moves no file.
  obtain ⟨-, grown, made, opened⟩ := place?_eq_some_iff.mp leads
  exact FileTree.contentAt_of_read (FileTree.makes_of_makeDirectories made).grows read opened

end Runs

/-- Three sorts of a file whose name has a quote, a backslash, a line separator and a character
beyond the first plane in it, the second of them with more imports than can be written; the log and
the directories above it are yet to be made. -/
def twice : List Call :=
  [⟨"2024-01-02T03:04:05Z", "a\"\\\u2028😀.ts", "sorted", 2, 1,
      "import 'b'\nimport 'a'\n".toList, 3⟩,
    ⟨"2024-01-02T03:04:06Z", "a\"\\\u2028😀.ts", "sorted", Nat.pow 10 maxIntegerDigits, 1, [], 0⟩,
    ⟨"2024-01-02T03:04:07Z", "a\"\\\u2028😀.ts", "unchanged", 2, 1, [], -1⟩]

/-- A sort with more imports than can be written. -/
def manyImports : Call :=
  ⟨"2024-01-02T03:04:05Z", "a.ts", "sorted", Nat.pow 10 maxIntegerDigits, 1, [], 0⟩

/-- A log that is there and cannot be written. -/
def lockedLog : FileTree where
  entries :=
    [(["logs".toList], .directory), (["logs".toList, "importsorter.jsonl".toList], .file [])]
  locked := [["logs".toList, "importsorter.jsonl".toList]]

/-- A line has at least the line break that ends it. -/
theorem encode_line_ne_nil (entry : LogEntry) : Utf8.encode entry.line ≠ [] := by
  rw [LogEntry.line, Utf8.encode_append]
  intro none
  exact absurd (List.append_eq_nil_iff.mp none).2 (by decide)

end Log

end ImportOrder
