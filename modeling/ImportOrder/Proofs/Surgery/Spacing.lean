import ImportOrder.Proofs.Surgery.Rerun
import ImportOrder.Proofs.Text.Rows

/-! The empty lines around rearranged groups: one between each two of them, and one behind the last
unless a carriage return runs into the line feed that was to make it. -/

namespace ImportOrder

/-- A terminator is a line break of its own, unless it is a carriage return in front of a line feed. -/
theorem IsLineBreak.before {terminator behind : Text} (isBreak : IsLineBreak terminator)
    (alone : terminator = ['\r'] → behind.head? ≠ some '\n') :
    Text.BreakBefore terminator behind := by
  -- Only a lone carriage return asks what stands behind it.
  rcases isBreak with rfl | rfl | rfl
  · exact .inr (.inl rfl)
  · exact .inr (.inr ⟨rfl, alone rfl⟩)
  · exact .inl rfl

/-- A terminator is a line break of its own in front of a row that is not empty. -/
theorem IsLineBreak.before_row {terminator : Text} (isBreak : IsLineBreak terminator) {c : Char}
    (plain : isBreakChar c = false) (more : Text) : Text.BreakBefore terminator (c :: more) := by
  apply isBreak.before
  intro _ feed
  rw [List.head?_cons, Option.some_inj] at feed
  rw [feed] at plain
  contradiction

/-- Two terminators are two line breaks. -/
theorem IsLineBreak.before_self {terminator : Text} (isBreak : IsLineBreak terminator)
    (behind : Text) : Text.BreakBefore terminator (terminator ++ behind) := by
  apply isBreak.before
  -- A carriage return follows a carriage return, so no line feed is there to join it.
  rintro rfl
  simp

/-- What starts with a line break starts with a character that breaks lines. -/
theorem Text.isBreakChar_of_startsWithBreak {text : Text} (starts : text.startsWithBreak = true)
    {c : Char} (head : text.head? = some c) : isBreakChar c = true := by
  -- The first character of the text is the first one of its line break.
  obtain ⟨width, found⟩ := Option.isSome_iff_exists.mp starts
  obtain ⟨mark, behind, isBreak, rfl, -⟩ := leadingBreak?_eq_some_iff.mp found
  obtain ⟨d, -, first, -, breaks, -⟩ := isBreak.ends
  rw [List.head?_append, first, Option.some_or, Option.some_inj] at head
  rwa [← head]

namespace Surgery

/-- The rows of the values of a group. -/
def groupRows (group : List Clip) : List Text := group.flatMap fun clip => clip.value.rows

/-- The rows of groups, with one empty row between each two groups. -/
def spacedRows (groups : List (List Clip)) : List Text :=
  List.intercalate [[]] (groups.map groupRows)

/-- A terminator that runs into the empty line behind it: a carriage return in front of a line feed
that a row follows. -/
def RunsInto (terminator behind : Text) : Prop :=
  -- Where a second line feed follows, it makes the empty line in place of the first one.
  terminator = ['\r'] ∧ ∃ c more, behind = '\n' :: c :: more ∧ isBreakChar c = false

@[simp] theorem groupRows_cons (clip : Clip) (rest : List Clip) :
    groupRows (clip :: rest) = clip.value.rows ++ groupRows rest := by
  simp [groupRows]

@[simp] theorem spacedRows_singleton (group : List Clip) :
    spacedRows [group] = groupRows group := by
  simp [spacedRows]

@[simp] theorem spacedRows_cons_cons (group next : List Clip) (rest : List (List Clip)) :
    spacedRows (group :: next :: rest) = groupRows group ++ [] :: spacedRows (next :: rest) := by
  simp [spacedRows, List.intercalate_cons_cons]

/-- Clips whose values begin and end with ink are written from a character of a row on. -/
theorem written_opens (terminator : Text) {clips : List Clip} (some_clip : clips ≠ [])
    (inked : ∀ clip ∈ clips, clip.value.InkEnded) :
    ∃ c more, written terminator clips = c :: more ∧ isBreakChar c = false := by
  obtain ⟨clip, rest, rfl⟩ := List.exists_cons_of_ne_nil some_clip
  obtain ⟨c, more, shape, plain⟩ := (inked clip (by simp)).opens
  exact ⟨c, more ++ terminator ++ written terminator rest, by simp [shape], plain⟩

/-- A layout begins as its first group does. -/
theorem layout_opens (terminator : Text) {groups : List (List Clip)} (some_group : groups ≠ [])
    (filled : ∀ group ∈ groups, group ≠ [])
    (inked : ∀ group ∈ groups, ∀ clip ∈ group, clip.value.InkEnded) :
    ∃ c more, layout terminator groups = c :: more ∧ isBreakChar c = false := by
  obtain ⟨group, rest, rfl⟩ := List.exists_cons_of_ne_nil some_group
  obtain ⟨c, more, shape, plain⟩ :=
    written_opens terminator (filled group (by simp)) (inked group (by simp))
  -- The first group stands in front, whether others follow it or not.
  cases rest with
  | nil => exact ⟨c, more, by rw [layout_singleton, shape], plain⟩
  | cons next others =>
    exact ⟨c, more ++ terminator ++ layout terminator (next :: others), by simp [shape], plain⟩

section Rows

variable {terminator rest mark behind : Text} (isBreak : IsLineBreak terminator)
  (joined : terminator ++ rest = mark ++ behind) (ends : Text.BreakBefore mark behind)

include isBreak joined ends

/-- A written group is the rows of its values. Its last terminator and what follows are read together,
as a line break and the rows behind it. -/
theorem rows_written {clips : List Clip} (some_clip : clips ≠ [])
    (inked : ∀ clip ∈ clips, clip.value.InkEnded) :
    Text.rows (written terminator clips ++ rest) = groupRows clips ++ behind.rows := by
  -- The induction is on the clips. Only the last terminator meets what follows the group.
  induction clips with
  | nil => contradiction
  | cons clip more ih =>
    obtain ⟨c, final, plain⟩ := (inked clip (by simp)).closes
    by_cases last : more = []
    · subst last
      rw [written_cons, written_nil, List.append_nil, List.append_assoc, joined,
        Text.rows_append_break final plain ends]
      simp [groupRows]
    · have inked' : ∀ other ∈ more, other.value.InkEnded :=
        fun other member => inked other (by simp [member])
      -- The next value begins with ink, so the terminator in front of it stands alone.
      obtain ⟨d, following, shape, plain'⟩ := written_opens terminator last inked'
      have alone : Text.BreakBefore terminator (written terminator more ++ rest) := by
        rw [shape, List.cons_append]
        exact isBreak.before_row plain' _
      rw [written_cons, List.append_assoc, List.append_assoc,
        Text.rows_append_break final plain alone, ih last inked', groupRows_cons, List.append_assoc]

/-- A layout is the rows of its groups with one empty row between each two of them. -/
theorem rows_layout {groups : List (List Clip)} (some_group : groups ≠ [])
    (filled : ∀ group ∈ groups, group ≠ [])
    (inked : ∀ group ∈ groups, ∀ clip ∈ group, clip.value.InkEnded) :
    Text.rows (layout terminator groups ++ rest) = spacedRows groups ++ behind.rows := by
  -- The induction is on the groups, with the terminator behind each of them making the empty row.
  induction groups with
  | nil => contradiction
  | cons group others ih =>
    have filled' := filled group (by simp)
    have inked' := inked group (by simp)
    cases others with
    | nil =>
      rw [layout_singleton, spacedRows_singleton]
      exact rows_written isBreak joined ends filled' inked'
    | cons next more =>
      have later := ih (by simp) (fun other member => filled other (by simp [member]))
        fun other member => inked other (by simp [member])
      obtain ⟨c, following, shape, plain⟩ := layout_opens terminator (by simp)
        (fun other member => filled other (by simp [member]))
        fun other member => inked other (List.mem_cons_of_mem group member)
      -- The terminator between the groups ends an empty line.
      have alone : Text.BreakBefore terminator (layout terminator (next :: more) ++ rest) := by
        rw [shape, List.cons_append]
        exact isBreak.before_row plain _
      rw [layout_cons_cons, List.append_assoc, List.append_assoc,
        rows_written isBreak rfl (isBreak.before_self _) filled' inked', Text.rows_break alone, later,
        spacedRows_cons_cons, List.append_assoc, List.cons_append]

end Rows

/-- The rows of a group whose values begin and end with ink are not empty at either end. -/
theorem groupRows_solid {group : List Clip} (some_clip : group ≠ [])
    (inked : ∀ clip ∈ group, clip.value.InkEnded) : Text.Solid (groupRows group) := by
  -- The outer rows are those of the first and of the last value.
  induction group with
  | nil => contradiction
  | cons clip more ih =>
    have own := (inked clip (by simp)).solid
    rw [groupRows_cons]
    by_cases last : more = []
    · subst last
      rwa [groupRows, List.flatMap_nil, List.append_nil]
    · have others := ih last fun other member => inked other (by simp [member])
      exact own.append others

/-- Groups that are not empty have a row. -/
theorem spacedRows_ne_nil {groups : List (List Clip)} (some_group : groups ≠ [])
    (solid : ∀ group ∈ groups, Text.Solid (groupRows group)) : spacedRows groups ≠ [] := by
  obtain ⟨group, rest, rfl⟩ := List.exists_cons_of_ne_nil some_group
  have some_row := (solid group (by simp)).ne_nil
  cases rest with
  | nil => rwa [spacedRows_singleton]
  | cons next more => simp [some_row]

/-- The last terminator of a layout and what follows it are a line break and a rest. The rest begins a
row exactly if the terminator has run into the empty line. -/
theorem ending_joined {terminator : Text} (isBreak : IsLineBreak terminator) (behind : Text)
    (taken : Bool) :
    ∃ mark below, terminator ++ (ending terminator behind taken ++ behind) = mark ++ below ∧
      Text.BreakBefore mark below ∧
      ((∀ c, below.head? = some c → isBreakChar c = true) ↔ ¬RunsInto terminator behind) := by
  -- A carriage return in front of a line feed is read as one line break with it. The row of the
  -- empty line is lost then, unless a second one follows.
  by_cases feeds : terminator = ['\r'] ∧ ∃ more, behind = '\n' :: more
  · -- The two characters are one line break, and what stands behind the line feed comes next.
    obtain ⟨rfl, more, rfl⟩ := feeds
    have nothing : ending ['\r'] ('\n' :: more) taken = [] := ending_eq_nil (.inl rfl)
    refine ⟨['\r', '\n'], more, by rw [nothing]; rfl, .inl rfl, ?_⟩
    constructor
    · rintro empty ⟨-, c, rest, shape, plain⟩
      obtain rfl := (List.cons.inj shape).2
      rw [empty c rfl] at plain
      contradiction
    · intro apart c head
      by_contra plain
      obtain ⟨rest, rfl⟩ := List.head?_eq_some_iff.mp head
      exact apart ⟨rfl, c, rest, rfl, by simpa using plain⟩
  · -- The terminator stands alone, and what follows it is an empty line or the end of the text.
    have closed := ending_append isBreak behind taken
    refine ⟨terminator, ending terminator behind taken ++ behind, rfl, ?_, ?_⟩
    · apply isBreak.before
      intro same feed
      -- A carriage return that is written is no line feed, so the feed was there before.
      unfold ending at feed
      split at feed
      · obtain ⟨more, shape⟩ := List.head?_eq_some_iff.mp feed
        exact feeds ⟨same, more, shape⟩
      · rw [same] at feed
        simp at feed
    · refine iff_of_true ?_ ?_
      · intro c head
        rcases closed with starts | empty
        · exact Text.isBreakChar_of_startsWithBreak starts head
        · rw [empty] at head
          contradiction
      · rintro ⟨same, c, more, shape, -⟩
        exact feeds ⟨same, _, shape⟩

/-- A run puts the layout and its ending between the two parts of what the cut has left. -/
theorem rearrange_eq_kept (terminator : Text) {source : Text} {location : Location}
    {clips : List Clip} {groups : List (List Clip)} {place : Nat} (some_clip : clips ≠ [])
    (inside : ∀ clip ∈ clips, clip.outer.stop ≤ source.length) (arranged : Arranges groups clips)
    (landing : Landing location clips place) :
    ∃ kept, cut ⟨source, false⟩ clips = .ok kept ∧
      rearrange terminator location source clips groups =
        .ok (source.take place ++ (layout terminator groups ++
          (ending terminator (kept.text.drop place) kept.finalBreakTaken ++
            kept.text.drop place))) := by
  obtain ⟨front, within⟩ := landing.front some_clip inside
  -- The cut is known by its result, so that the landing can be compared with it.
  have cutDone := cut_eq_ok false some_clip inside
  refine ⟨_, cutDone, ?_⟩
  -- The landing is an offset of what is left, where everything in front of it is as it was.
  have width : (source.take place).length = place := by
    rw [← front, List.length_take]
    omega
  rw [← List.take_append_drop place (source.outside _), front] at cutDone
  rw [rearrange_of_cut terminator some_clip arranged (by rwa [width]) cutDone, List.append_assoc]

/-- A rearranged text has one empty line between each two groups. Its lines are those that end in front
of the landing, then those of the groups, the first of them behind what stood on the line, and then
those below. No group begins or ends with an empty line. An empty line or the end of the text follows
the last group, unless its carriage return runs into the line feed that was to make the empty line. -/
theorem rearrange_spaced (source terminator : Text) (location : Location) {clips : List Clip}
    {groups : List (List Clip)} (isBreak : IsLineBreak terminator) (some_clip : clips ≠ [])
    (inside : ∀ clip ∈ clips, clip.outer.stop ≤ source.length)
    (inked : ∀ clip ∈ clips, clip.value.InkEnded) (arranged : Arranges groups clips) :
    ∃ (out : Text) (kept : Draft) (place : Nat) (below : List Text),
      rearrange terminator location source clips groups = .ok out ∧
      cut ⟨source, false⟩ clips = .ok kept ∧ Landing location clips place ∧
      out.rows = (Text.finished (source.take place)).rows ++
        (Text.hang (Text.unfinished (source.take place)) (spacedRows groups) ++ below) ∧
      (∀ group ∈ groups, Text.Solid (groupRows group)) ∧
      ((below = [] ∨ below.head? = some []) ↔ ¬RunsInto terminator (kept.text.drop place)) := by
  obtain ⟨place, landing⟩ := Landing.exists location some_clip
  obtain ⟨kept, cutDone, done⟩ :=
    rearrange_eq_kept terminator some_clip inside arranged landing
  -- The clips of the groups are those that were cut.
  have some_group := arranged.some_group some_clip
  have inked' : ∀ group ∈ groups, ∀ clip ∈ group, clip.value.InkEnded := by
    intro group inGroups clip inGroup
    have inFlat := List.mem_flatten.mpr ⟨group, inGroups, inGroup⟩
    exact inked clip (arranged.exactly.mem_iff.mp inFlat)
  have solid : ∀ group ∈ groups, Text.Solid (groupRows group) := fun group member =>
    groupRows_solid (arranged.filled group member) (inked' group member)
  obtain ⟨mark, below, joined, ends, spaced⟩ :=
    ending_joined isBreak (kept.text.drop place) kept.finalBreakTaken
  -- What stands below is what follows the last line break of the layout.
  refine ⟨_, kept, place, below.rows, done, cutDone, landing, ?_, solid, ?_⟩
  · -- The layout begins with ink, so it goes on with the line on which it lands.
    obtain ⟨c, more, shape, plain⟩ := layout_opens terminator some_group arranged.filled inked'
    have rows := rows_layout isBreak joined ends some_group arranged.filled inked'
    rw [shape, List.cons_append] at rows
    rw [shape, List.cons_append, Text.rows_resume _ plain, rows,
      Text.hang_append (spacedRows_ne_nil some_group solid)]
  · rw [Text.head_rows_iff]
    exact spaced

/-- A carriage return that runs into the first of two line feeds leaves the second one its empty line.
-/
theorem rearrange_spaced_feeds :
    ∃ out below, rearrange ['\r'] .auto ['b', '\n', 'a', '\n', '\n', '\n', 'x']
        [.bare ['b'] 0, .bare ['a'] 2] [[.bare ['a'] 2], [.bare ['b'] 0]] = .ok out ∧
      out.rows = [['a'], [], ['b']] ++ below ∧ (below = [] ∨ below.head? = some []) := by
  have arranged : Arranges [[.bare ['a'] 2], [.bare ['b'] 0]] [.bare ['b'] 0, .bare ['a'] 2] :=
    ⟨by decide, by decide⟩
  have inked : ∀ clip ∈ [Clip.bare ['b'] 0, .bare ['a'] 2], clip.value.InkEnded := by
    intro clip member
    simp only [List.mem_cons, List.not_mem_nil, or_false] at member
    rcases member with rfl | rfl
    · exact ⟨⟨'b', rfl, rfl⟩, ⟨'b', rfl, rfl⟩⟩
    · exact ⟨⟨'a', rfl, rfl⟩, ⟨'a', rfl, rfl⟩⟩
  obtain ⟨out, kept, place, below, done, cutDone, landing, rows, -, spaced⟩ := rearrange_spaced
    ['b', '\n', 'a', '\n', '\n', '\n', 'x'] ['\r'] .auto (.inr (.inl rfl)) (by decide) (by decide)
    inked arranged
  obtain rfl : place = 0 := Nat.le_zero.mp (landing.2 (.bare ['b'] 0) (by simp))
  -- The spans stand in their order, so sorting them leaves the list as it is.
  have left : cut ⟨['b', '\n', 'a', '\n', '\n', '\n', 'x'], false⟩ [.bare ['b'] 0, .bare ['a'] 2] =
      .ok ⟨['\n', '\n', 'x'], false⟩ := by
    have sorted : ([Clip.bare ['b'] 0, .bare ['a'] 2].map Clip.outer).mergeSort Span.precedes =
        [⟨0, 1, by decide⟩, ⟨2, 3, by decide⟩] :=
      Draft.mergeSort_of_ascending (by decide)
    rw [cut, if_neg (by decide), Draft.remove_eq_ok (by decide) (by decide), Draft.regions, sorted]
    decide +kernel
  obtain rfl := Except.ok.inj (cutDone.symm.trans left)
  refine ⟨out, below, done, rows, spaced.mpr ?_⟩
  rintro ⟨-, c, more, shape, plain⟩
  obtain ⟨rfl, -⟩ := List.cons.inj (List.cons.inj shape).2
  contradiction

/-- A carriage return that runs into the only line feed takes the empty line along, and the next line
follows the last group at once. -/
theorem rearrange_runs_into :
    rearrange ['\r'] .auto ['a', '\n', '\n', 'b'] [.bare ['a'] 0] [[.bare ['a'] 0]] =
      .ok ['a', '\r', '\n', 'b'] ∧
    Text.rows ['a', '\r', '\n', 'b'] = [['a'], ['b']] ∧ Text.InkEnded ['a'] ∧
    Arranges [[.bare ['a'] 0]] [.bare ['a'] 0] := by
  exact ⟨by decide +kernel, by decide, ⟨⟨'a', rfl, rfl⟩, ⟨'a', rfl, rfl⟩⟩, ⟨by decide, by decide⟩⟩

end Surgery

end ImportOrder
