import ImportOrder.Engine
import ImportOrder.Locality.Manifest
import ImportOrder.Proofs.Surgery.Lossless
import ImportOrder.Proofs.Surgery.Placement

/-! What a second run does to the text of the first: nothing where the imports start a line, and one
line break more where they do not. -/

namespace ImportOrder

/-- The line breaks that can end a line of a source text. -/
def IsLineBreak (terminator : Text) : Prop :=
  terminator = ['\n'] ∨ terminator = ['\r'] ∨ terminator = ['\r', '\n']

/-- A line feed, alone or behind a carriage return, is a line break. -/
theorem IsLineBreak.of_feed {terminator : Text}
    (feed : terminator = ['\n'] ∨ terminator = ['\r', '\n']) : IsLineBreak terminator := by
  rcases feed with rfl | rfl
  · exact .inl rfl
  · exact .inr (.inr rfl)

/-- Every option stands for a line break. -/
theorem terminatorOf_isLineBreak (name : String) : IsLineBreak (terminatorOf name) := by
  -- Two options have a line break of their own, and all others share the line feed.
  unfold terminatorOf IsLineBreak
  split
  · exact .inr (.inl rfl)
  · split
    · exact .inr (.inr rfl)
    · exact .inl rfl

/-- A line break is blank. -/
theorem IsLineBreak.blank {terminator : Text} (isBreak : IsLineBreak terminator) :
    Text.allBlank terminator = true := by
  rcases isBreak with rfl | rfl | rfl <;> decide

/-- A text that starts with a line break is known by it, whatever follows. -/
theorem IsLineBreak.startsWithBreak {terminator : Text} (isBreak : IsLineBreak terminator)
    (behind : Text) : Text.startsWithBreak (terminator ++ behind) = true := by
  rcases isBreak with rfl | rfl | rfl
  · rfl
  · cases behind with
    | nil => rfl
    -- A line feed behind a carriage return belongs to the same line break.
    | cons c rest => by_cases feed : c = '\n' <;> simp [Text.startsWithBreak, Text.leadingBreak?, feed]
  · rfl

/-- A text that ends with a line break ends a line. -/
theorem IsLineBreak.endsWithBreak {terminator : Text} (isBreak : IsLineBreak terminator)
    (front : Text) : Text.endsWithBreak (front ++ terminator) = true := by
  rcases isBreak with rfl | rfl | rfl <;> simp [Text.endsWithBreak, isBreakChar]

namespace Draft

/-- Whether a line starts at an offset is told by what stands in front of the offset. -/
theorem beginsLine_append (front behind : Text) :
    beginsLine (front ++ behind) front.length = beginsLine front front.length := by
  unfold beginsLine
  -- At offset zero a line starts in any case; elsewhere the last character in front decides.
  by_cases empty : front.length = 0
  · simp [empty]
  · rw [List.getElem?_append_left (by omega)]

/-- A line feed, or a carriage return with one, that follows a region ends the region's line. -/
theorem lineEnd_terminator {terminator : Text} (front behind : Text)
    (feed : terminator = ['\n'] ∨ terminator = ['\r', '\n']) :
    lineEnd (front ++ (terminator ++ behind)) front.length = front.length + terminator.length := by
  -- No blanks come in front of the line break, so it is all that is taken.
  rw [lineEnd_eq, List.drop_left]
  rcases feed with rfl | rfl
  · simp [isInlineBlank, Text.leadingBreak?]
  · simp [isInlineBlank, Text.leadingBreak?]

end Draft

namespace Surgery

/-- The text after clips are cut out of a source and groups of them are put back. -/
def rearrange (terminator : Text) (location : Location) (source : Text) (clips : List Clip)
    (groups : List (List Clip)) : Except Draft.Refusal Text := do
  let kept ← cut ⟨source, false⟩ clips
  let done ← insert terminator location kept groups
  return done.text

/-- What is written behind a layout, in front of the rest of a draft. -/
def ending (terminator behind : Text) (taken : Bool) : Text :=
  if endsLine ⟨behind, taken⟩ 0 then [] else terminator

/-- A run whose cut is known puts the layout and its ending where the groups land. -/
theorem rearrange_of_cut (terminator : Text) {source front behind : Text} {location : Location}
    {taken : Bool} {clips : List Clip} {groups : List (List Clip)} (some_clip : clips ≠ [])
    (arranged : Arranges groups clips) (landing : Landing location clips front.length)
    (cutDone : cut ⟨source, false⟩ clips = .ok ⟨front ++ behind, taken⟩) :
    rearrange terminator location source clips groups =
      .ok (front ++ layout terminator groups ++ (ending terminator behind taken ++ behind)) := by
  have within : front.length ≤ (front ++ behind).length := by
    rw [List.length_append]
    omega
  -- The insertion splits the draft exactly where the front ends.
  have inserted := insert_eq_ok terminator ⟨front ++ behind, taken⟩ arranged some_clip landing
    within
  rw [endsLine_append, List.take_left, List.drop_left] at inserted
  simp only [rearrange, cutDone, inserted, ending, Bind.bind, Except.bind, Pure.pure, Except.pure,
    List.append_assoc]

/-- The first run keeps what is in front of the landing. -/
theorem rearrange_eq_ok (terminator : Text) {source : Text} {location : Location} {clips : List Clip}
    {groups : List (List Clip)} {place : Nat} (some_clip : clips ≠ [])
    (inside : ∀ clip ∈ clips, clip.outer.stop ≤ source.length)
    (arranged : Arranges groups clips) (landing : Landing location clips place) :
    (source.take place).length = place ∧ ∃ behind taken,
      rearrange terminator location source clips groups =
        .ok (source.take place ++ layout terminator groups ++
          (ending terminator behind taken ++ behind)) := by
  obtain ⟨front, within⟩ := landing.front some_clip inside
  have cutDone := cut_eq_ok false some_clip inside
  -- The landing is an offset of what the cut has left, hence of the source.
  have width : (source.take place).length = place := by
    rw [← front, List.length_take]
    omega
  rw [← List.take_append_drop place (source.outside _), front] at cutDone
  exact ⟨width, _, _, rearrange_of_cut terminator some_clip arranged (by rwa [width]) cutDone⟩

/-- Placed groups land where their layout starts. -/
theorem PlacedGroups.landing {terminator : Text} {location : Location} {place : Nat}
    {clips again : List Clip} {moved : List (List Clip)}
    (placed : PlacedGroups terminator place moved) (arranged : Arranges moved again)
    (some_clip : again ≠ []) (landing : Landing location clips place) :
    Landing location again place := by
  cases location with
  | leading => exact landing
  | auto =>
    -- The first clip of the layout has the least start.
    obtain ⟨clip, rest, flat, starts⟩ :=
      placed.first (arranged.some_group some_clip) arranged.filled
    refine ⟨⟨clip, arranged.exactly.mem_iff.mp (by simp [flat]), starts⟩, ?_⟩
    intro other member
    exact (placed.bounds (arranged.exactly.mem_iff.mpr member)).1

/-- Cutting placed clips takes a single region, from the start of the layout to its last line break.
-/
theorem cut_placed {terminator front : Text} (rest : Text) {moved : List (List Clip)}
    {again : List Clip} (isBreak : IsLineBreak terminator) (arranged : Arranges moved again)
    (some_clip : again ≠ []) (placed : PlacedGroups terminator front.length moved) :
    ∃ region : Span, region.start = front.length ∧
      region.stop + terminator.length = front.length + (layout terminator moved).length ∧
      cut ⟨front ++ layout terminator moved ++ rest, false⟩ again =
        .ok ⟨Draft.keepFrom 0 (front ++ layout terminator moved ++ rest)
            [Draft.extend (front ++ layout terminator moved ++ rest) region],
          Draft.takesFinalBreak (front ++ layout terminator moved ++ rest)
            [Draft.extend (front ++ layout terminator moved ++ rest) region]⟩ := by
  obtain ⟨region, starts, stops, only⟩ :=
    regions_placedGroups rest isBreak.blank arranged some_clip placed
  -- Every clip lies in the layout, and the layout lies in the text.
  have inside : ∀ clip ∈ again,
      clip.outer.stop ≤ (front ++ layout terminator moved ++ rest).length := by
    intro clip member
    have bound := (placed.bounds (arranged.exactly.mem_iff.mpr member)).2
    simp only [List.length_append]
    omega
  have cutDone := cut_eq_ok false some_clip inside
  rw [← Draft.keepFrom_regions, only] at cutDone
  exact ⟨region, starts, stops, cutDone⟩

/-- Where a layout starts a line, cutting its clips takes the layout and nothing else. -/
theorem cut_placed_wholeLine {terminator front : Text} (rest : Text) {moved : List (List Clip)}
    {again : List Clip} (feed : terminator = ['\n'] ∨ terminator = ['\r', '\n'])
    (arranged : Arranges moved again) (some_clip : again ≠ [])
    (placed : PlacedGroups terminator front.length moved)
    (begins : Draft.beginsLine front front.length = true) :
    cut ⟨front ++ layout terminator moved ++ rest, false⟩ again =
      .ok ⟨front ++ rest, rest.isEmpty⟩ := by
  have isBreak := IsLineBreak.of_feed feed
  obtain ⟨region, starts, stops, cutDone⟩ := cut_placed rest isBreak arranged some_clip placed
  obtain ⟨core, shape⟩ :=
    layout_ends terminator (arranged.some_group some_clip) arranged.filled
  have split : front ++ layout terminator moved ++ rest =
      (front ++ core) ++ (terminator ++ rest) := by
    simp [shape]
  have width : region.stop = (front ++ core).length := by
    rw [shape, List.length_append] at stops
    rw [List.length_append]
    omega
  -- The region starts where the front ends, which is the start of a line.
  have line : Draft.beginsLine (front ++ layout terminator moved ++ rest) region.start = true := by
    rw [starts, List.append_assoc, Draft.beginsLine_append, begins]
  -- The region stops in front of the last line break, which is the rest of its line.
  have grown : (Draft.extend (front ++ layout terminator moved ++ rest) region).stop =
      front.length + (layout terminator moved).length := by
    rw [Draft.extend_stop_of_begins line, split, width, Draft.lineEnd_terminator _ _ feed, ← width,
      stops]
  have origin : (Draft.extend (front ++ layout terminator moved ++ rest) region).start =
      front.length := by
    rw [Draft.extend_start, starts]
  -- The last line break of the text is lost exactly when nothing follows the layout.
  have final : Draft.takesFinalBreak (front ++ layout terminator moved ++ rest)
      [Draft.extend (front ++ layout terminator moved ++ rest) region] = rest.isEmpty := by
    have wide : 0 < (layout terminator moved).length := by
      rw [shape, List.length_append]
      rcases feed with rfl | rfl <;> simp
    simp only [Draft.takesFinalBreak, List.getLast?_singleton, origin, grown]
    cases rest with
    | nil =>
      have ends := isBreak.endsWithBreak (front ++ core)
      rw [List.append_assoc, ← shape] at ends
      simp [ends, wide]
    | cons c more => simp
  rw [cutDone, Draft.keepFrom_single origin grown, final]

/-- Where a layout starts inside a line, cutting its clips leaves its last line break. -/
theorem cut_placed_midLine {terminator front : Text} (rest : Text) {moved : List (List Clip)}
    {again : List Clip} (isBreak : IsLineBreak terminator)
    (arranged : Arranges moved again) (some_clip : again ≠ [])
    (placed : PlacedGroups terminator front.length moved)
    (inside : Draft.beginsLine front front.length = false) :
    ∃ taken, cut ⟨front ++ layout terminator moved ++ rest, false⟩ again =
      .ok ⟨front ++ (terminator ++ rest), taken⟩ := by
  obtain ⟨region, starts, stops, cutDone⟩ := cut_placed rest isBreak arranged some_clip placed
  obtain ⟨core, shape⟩ :=
    layout_ends terminator (arranged.some_group some_clip) arranged.filled
  -- Inside a line the region does not grow, so it leaves the line break.
  have same : Draft.extend (front ++ layout terminator moved ++ rest) region = region := by
    apply Draft.extend_of_not_begins
    rw [starts, List.append_assoc, Draft.beginsLine_append, inside]
  have split : front ++ layout terminator moved ++ rest =
      front ++ core ++ (terminator ++ rest) := by
    simp [shape]
  have width : region.stop = front.length + core.length := by
    rw [shape, List.length_append] at stops
    omega
  rw [same, split, Draft.keepFrom_single starts width] at cutDone
  exact ⟨_, by rw [split]; exact cutDone⟩

/-- What stands behind a layout starts with a line break, or is nothing at all. -/
theorem ending_append {terminator : Text} (isBreak : IsLineBreak terminator) (behind : Text)
    (taken : Bool) :
    Text.startsWithBreak (ending terminator behind taken ++ behind) = true ∨
      ending terminator behind taken ++ behind = [] := by
  unfold ending
  split
  · rename_i ends
    simp only [endsLine, Draft.breakAt, Draft.atLostBreak, Draft.place, Draft.length,
      Bool.or_eq_true, Bool.and_eq_true, beq_iff_eq] at ends
    rcases ends with starts | ⟨empty, -⟩
    · exact .inl (by simpa using starts)
    · exact .inr (by simpa using empty.symm)
  · exact .inl (isBreak.startsWithBreak behind)

/-- Nothing is written behind a layout in front of a line break, or at the end of a text that lost
its own. -/
theorem ending_eq_nil {terminator rest : Text} {taken : Bool}
    (ends : Text.startsWithBreak rest = true ∨ rest = [] ∧ taken = true) :
    ending terminator rest taken = [] := by
  have closed : endsLine ⟨rest, taken⟩ 0 = true := by
    rcases ends with starts | ⟨rfl, rfl⟩
    · simp [endsLine, Draft.breakAt, Draft.place, starts]
    · rfl
  rw [ending, if_pos closed]

/-- The clips of some groups as a run leaves them: the same values in the same groups, each where the
layout puts it. -/
structure Relocated (terminator : Text) (place : Nat) (groups moved : List (List Clip))
    (again : List Clip) : Prop where
  values : moved.map (List.map Clip.value) = groups.map (List.map Clip.value)
  placed : PlacedGroups terminator place moved
  every : moved.flatten.Perm again

/-- Every run leaves its clips somewhere. -/
theorem Relocated.exists (terminator : Text) (place : Nat) (groups : List (List Clip)) :
    ∃ moved again, Relocated terminator place groups moved again := by
  obtain ⟨values, placed⟩ := settleGroups_placed terminator place groups
  exact ⟨_, _, values, placed, .refl _⟩

/-- Relocated clips fill the same groups. -/
theorem Relocated.arranges {terminator : Text} {place : Nat} {groups moved : List (List Clip)}
    {clips again : List Clip} (relocated : Relocated terminator place groups moved again)
    (arranged : Arranges groups clips) : Arranges moved again := by
  refine ⟨?_, relocated.every⟩
  intro group member empty
  -- An empty group would have had no values in the first run either.
  have image : group.map Clip.value ∈ groups.map (List.map Clip.value) := by
    rw [← relocated.values]
    exact List.mem_map_of_mem member
  obtain ⟨original, inGroups, same⟩ := List.mem_map.mp image
  rw [empty, List.map_nil, List.map_eq_nil_iff] at same
  exact arranged.filled original inGroups same

/-- Relocating loses no clip. -/
theorem Relocated.some_clip {terminator : Text} {place : Nat} {groups moved : List (List Clip)}
    {clips again : List Clip} (relocated : Relocated terminator place groups moved again)
    (arranged : Arranges groups clips) (some_clip : clips ≠ []) : again ≠ [] := by
  intro empty
  have some_group := arranged.some_group some_clip
  -- There are as many groups as before, and none of them is empty.
  have others : moved ≠ [] := by
    intro none_left
    have values := relocated.values
    rw [none_left, List.map_nil] at values
    exact some_group (List.map_eq_nil_iff.mp values.symm)
  obtain ⟨clip, rest, flat, -⟩ :=
    relocated.placed.first others (relocated.arranges arranged).filled
  have none_left := relocated.every
  rw [empty, flat] at none_left
  simpa using none_left.eq_nil

/-- Relocated clips slice their values out of the text that a run gave. -/
theorem Relocated.slice {terminator front : Text} (rest : Text) {groups moved : List (List Clip)}
    {again : List Clip} (relocated : Relocated terminator front.length groups moved again)
    {clip : Clip} (member : clip ∈ again) :
    Text.slice (front ++ layout terminator groups ++ rest) clip.outer.start clip.outer.stop =
      clip.value := by
  -- The text was made of the old clips, whose values are the same.
  rw [← layout_congr terminator relocated.values]
  exact relocated.placed.slice rest (relocated.every.mem_iff.mpr member)

/-- A run on relocated clips puts the same layout in the same place. -/
theorem rearrange_relocated {terminator source front behind : Text} {location : Location}
    {taken : Bool} {clips again : List Clip} {groups moved : List (List Clip)}
    (some_clip : clips ≠ []) (arranged : Arranges groups clips)
    (landing : Landing location clips front.length)
    (relocated : Relocated terminator front.length groups moved again)
    (cutDone : cut ⟨source, false⟩ again = .ok ⟨front ++ behind, taken⟩) :
    rearrange terminator location source again moved =
      .ok (front ++ layout terminator groups ++ (ending terminator behind taken ++ behind)) := by
  -- The relocated clips land where the others did and have the same layout.
  have filled := relocated.arranges arranged
  have some_again := relocated.some_clip arranged some_clip
  rw [← layout_congr terminator relocated.values]
  exact rearrange_of_cut terminator some_again filled
    (relocated.placed.landing filled some_again landing) cutDone

/-- A run on relocated clips at the start of a line changes nothing, if a line ends behind them. -/
theorem rearrange_step_wholeLine {terminator front rest : Text} {location : Location}
    {clips again : List Clip} {groups moved : List (List Clip)} (some_clip : clips ≠ [])
    (arranged : Arranges groups clips) (landing : Landing location clips front.length)
    (relocated : Relocated terminator front.length groups moved again)
    (feed : terminator = ['\n'] ∨ terminator = ['\r', '\n'])
    (begins : Draft.beginsLine front front.length = true)
    (closed : Text.startsWithBreak rest = true ∨ rest = []) :
    rearrange terminator location (front ++ layout terminator groups ++ rest) again moved =
      .ok (front ++ layout terminator groups ++ rest) := by
  have cutAgain := cut_placed_wholeLine rest feed (relocated.arranges arranged)
    (relocated.some_clip arranged some_clip) relocated.placed begins
  rw [layout_congr terminator relocated.values] at cutAgain
  rw [rearrange_relocated some_clip arranged landing relocated cutAgain]
  -- The cut took the layout alone, and what it left needs no ending.
  have none_needed : ending terminator rest rest.isEmpty = [] := by
    apply ending_eq_nil
    rcases closed with starts | empty
    · exact .inl starts
    · exact .inr ⟨empty, by simp [empty]⟩
  rw [none_needed, List.nil_append]

/-- A run on relocated clips inside a line leaves their last line break and writes it once more. -/
theorem rearrange_step_midLine {terminator front : Text} (rest : Text) {location : Location}
    {clips again : List Clip} {groups moved : List (List Clip)} (some_clip : clips ≠ [])
    (arranged : Arranges groups clips) (landing : Landing location clips front.length)
    (relocated : Relocated terminator front.length groups moved again)
    (isBreak : IsLineBreak terminator) (within : Draft.beginsLine front front.length = false) :
    rearrange terminator location (front ++ layout terminator groups ++ rest) again moved =
      .ok (front ++ layout terminator groups ++ (terminator ++ rest)) := by
  -- What the cut leaves starts with the line break of the last clip.
  obtain ⟨taken, cutAgain⟩ := cut_placed_midLine rest isBreak (relocated.arranges arranged)
    (relocated.some_clip arranged some_clip) relocated.placed within
  rw [layout_congr terminator relocated.values] at cutAgain
  rw [rearrange_relocated some_clip arranged landing relocated cutAgain,
    ending_eq_nil (.inl (isBreak.startsWithBreak rest)), List.nil_append]

/-- Where the groups land at the start of a line, a second run on the text of the first changes
nothing. -/
theorem rearrange_again_wholeLine (source terminator : Text) (location : Location)
    {clips : List Clip} {groups : List (List Clip)} (some_clip : clips ≠ [])
    (inside : ∀ clip ∈ clips, clip.outer.stop ≤ source.length) (arranged : Arranges groups clips)
    (feed : terminator = ['\n'] ∨ terminator = ['\r', '\n'])
    (begins : location = .auto →
      ∃ place, LeastStart clips place ∧ Draft.beginsLine source place = true) :
    ∃ out place, rearrange terminator location source clips groups = .ok out ∧
      Landing location clips place ∧
      (∃ moved again, Relocated terminator place groups moved again) ∧
      ∀ moved again, Relocated terminator place groups moved again →
        (∀ clip ∈ again, Text.slice out clip.outer.start clip.outer.stop = clip.value) ∧
        rearrange terminator location out again moved = .ok out := by
  -- The landing starts a line at either location.
  have lands : ∃ place, Landing location clips place ∧ Draft.beginsLine source place = true := by
    cases location with
    | leading => exact ⟨0, rfl, rfl⟩
    | auto => exact begins rfl
  obtain ⟨place, landing, begins⟩ := lands
  obtain ⟨width, behind, taken, first⟩ :=
    rearrange_eq_ok terminator some_clip inside arranged landing
  refine ⟨_, place, first, landing, Relocated.exists terminator place groups, ?_⟩
  intro moved again relocated
  -- What stands in front of the landing has not moved, so a line still starts there.
  have line : Draft.beginsLine (source.take place) (source.take place).length = true := by
    rw [← Draft.beginsLine_append _ (source.drop place), List.take_append_drop, width, begins]
  rw [← width] at landing relocated
  exact ⟨fun clip member => relocated.slice _ member,
    rearrange_step_wholeLine some_clip arranged landing relocated feed line
      (ending_append (.of_feed feed) behind taken)⟩

/-- Two imports that have changed places stay where they are. -/
theorem rearrange_again_wholeLine_swap :
    ∃ out, rearrange ['\n'] .auto ['b', '\n', 'a', '\n', 'x'] [.bare ['b'] 0, .bare ['a'] 2]
        [[.bare ['a'] 2], [.bare ['b'] 0]] = .ok out ∧
      Relocated ['\n'] 0 [[.bare ['a'] 2], [.bare ['b'] 0]] [[.bare ['a'] 0], [.bare ['b'] 3]]
        [.bare ['a'] 0, .bare ['b'] 3] ∧
      rearrange ['\n'] .auto out [.bare ['a'] 0, .bare ['b'] 3]
        [[.bare ['a'] 0], [.bare ['b'] 3]] = .ok out := by
  have least : LeastStart [.bare ['b'] 0, .bare ['a'] 2] 0 := ⟨⟨.bare ['b'] 0, by simp, rfl⟩, by simp⟩
  have arranged : Arranges [[.bare ['a'] 2], [.bare ['b'] 0]] [.bare ['b'] 0, .bare ['a'] 2] :=
    ⟨by decide, by decide⟩
  obtain ⟨out, place, first, landing, -, again⟩ := rearrange_again_wholeLine
    ['b', '\n', 'a', '\n', 'x'] ['\n'] .auto (by decide) (by decide) arranged (.inl rfl)
    fun _ => ⟨0, least, rfl⟩
  have origin : place = 0 := Nat.le_zero.mp (landing.2 (.bare ['b'] 0) (by simp))
  have relocated : Relocated ['\n'] 0 [[.bare ['a'] 2], [.bare ['b'] 0]]
      [[.bare ['a'] 0], [.bare ['b'] 3]] [.bare ['a'] 0, .bare ['b'] 3] :=
    ⟨rfl, ⟨⟨rfl, rfl, trivial⟩, ⟨rfl, rfl, trivial⟩, trivial⟩, .refl _⟩
  rw [origin] at again
  exact ⟨out, first, relocated, (again _ _ relocated).2⟩

/-- Further runs on a text, each on the clips where the run before has left them. -/
def reruns (terminator : Text) (location : Location) (again : List Clip)
    (moved : List (List Clip)) : Nat → Text → Except Draft.Refusal Text
  | 0, text => .ok text
  | count + 1, text => do
    let next ← rearrange terminator location text again moved
    reruns terminator location again moved count next

/-- Inside a line, every run adds a line break behind the layout. -/
theorem reruns_midLine {terminator front : Text} (rest : Text) {location : Location}
    {clips again : List Clip} {groups moved : List (List Clip)} (some_clip : clips ≠ [])
    (arranged : Arranges groups clips) (landing : Landing location clips front.length)
    (relocated : Relocated terminator front.length groups moved again)
    (isBreak : IsLineBreak terminator) (within : Draft.beginsLine front front.length = false)
    (count : Nat) :
    reruns terminator location again moved count (front ++ layout terminator groups ++ rest) =
      .ok (front ++ layout terminator groups ++
        ((List.replicate count terminator).flatten ++ rest)) := by
  -- Every run leaves more behind the layout, so the rest is kept general.
  induction count generalizing rest with
  | zero => rfl
  | succ count ih =>
    simp only [reruns, rearrange_step_midLine rest some_clip arranged landing relocated isBreak
      within, Bind.bind, Except.bind]
    -- One line break is written now, and the others by the runs that follow.
    rw [ih, List.replicate_succ', List.flatten_append]
    simp

/-- Where the groups land inside a line, every further run adds a line break behind their layout, so
that no second run leaves the text of the first as it is. -/
theorem rearrange_again_midLine (source : Text) (lineEnd : String) {clips : List Clip}
    {groups : List (List Clip)} {place : Nat} (some_clip : clips ≠ [])
    (inside : ∀ clip ∈ clips, clip.outer.stop ≤ source.length) (arranged : Arranges groups clips)
    (least : LeastStart clips place) (within : Draft.beginsLine source place = false) :
    ∃ out, rearrange (terminatorOf lineEnd) .auto source clips groups = .ok out ∧
      (∃ moved again, Relocated (terminatorOf lineEnd) place groups moved again) ∧
      ∀ moved again, Relocated (terminatorOf lineEnd) place groups moved again →
        (∀ clip ∈ again, Text.slice out clip.outer.start clip.outer.stop = clip.value) ∧
        (∀ count, reruns (terminatorOf lineEnd) .auto again moved count out =
          .ok (out.take (place + (layout (terminatorOf lineEnd) groups).length) ++
            ((List.replicate count (terminatorOf lineEnd)).flatten ++
              out.drop (place + (layout (terminatorOf lineEnd) groups).length)))) ∧
        rearrange (terminatorOf lineEnd) .auto out again moved ≠ .ok out := by
  -- Of the option nothing matters but that it stands for a line break.
  have isBreak := terminatorOf_isLineBreak lineEnd
  generalize terminatorOf lineEnd = terminator at isBreak ⊢
  have landing : Landing .auto clips place := least
  obtain ⟨width, behind, taken, first⟩ :=
    rearrange_eq_ok terminator some_clip inside arranged landing
  refine ⟨_, first, Relocated.exists terminator place groups, ?_⟩
  intro moved again relocated
  -- What stands in front of the landing has not moved, so it is still inside a line.
  have line : Draft.beginsLine (source.take place) (source.take place).length = false := by
    rw [← Draft.beginsLine_append _ (source.drop place), List.take_append_drop, width, within]
  rw [← width] at landing relocated
  refine ⟨fun clip member => relocated.slice _ member, ?_, ?_⟩
  · intro count
    have stop : place + (layout terminator groups).length =
        (source.take place ++ layout terminator groups).length := by
      rw [List.length_append, width]
    rw [stop, List.take_left, List.drop_left]
    exact reruns_midLine _ some_clip arranged landing relocated isBreak line count
  · rw [rearrange_step_midLine _ some_clip arranged landing relocated isBreak line]
    intro same
    -- The two texts differ in length by the line break.
    have lengths := congrArg List.length (Except.ok.inj same)
    simp only [List.length_append] at lengths
    have wide : 0 < terminator.length := by
      rcases isBreak with rfl | rfl | rfl <;> simp
    omega

/-- The second run on an indented import does not leave the text of the first. -/
theorem rearrange_again_midLine_indented :
    ∃ out, rearrange (terminatorOf "lf") .auto [' ', 'a', '\n', 'x'] [.bare ['a'] 1]
        [[.bare ['a'] 1]] = .ok out ∧
      Relocated (terminatorOf "lf") 1 [[.bare ['a'] 1]] [[.bare ['a'] 1]] [.bare ['a'] 1] ∧
      rearrange (terminatorOf "lf") .auto out [.bare ['a'] 1] [[.bare ['a'] 1]] ≠ .ok out := by
  have least : LeastStart [.bare ['a'] 1] 1 :=
    ⟨⟨.bare ['a'] 1, by simp, rfl⟩, by simp [Clip.bare]⟩
  have arranged : Arranges [[.bare ['a'] 1]] [.bare ['a'] 1] := ⟨by decide, by decide⟩
  obtain ⟨out, first, -, again⟩ := rearrange_again_midLine [' ', 'a', '\n', 'x'] "lf" (by decide)
    (by decide) arranged least (by decide)
  have relocated :
      Relocated (terminatorOf "lf") 1 [[.bare ['a'] 1]] [[.bare ['a'] 1]] [.bare ['a'] 1] :=
    ⟨rfl, ⟨⟨rfl, rfl, trivial⟩, trivial⟩, .refl _⟩
  exact ⟨out, first, relocated, (again _ _ relocated).2.2⟩

end Surgery

/-- The text of a source with its imports in order, in a project without dependencies. -/
def sortedText (path : String) (source : Text) : Option Text :=
  (arrangeImports (Manifest.classifier []) {} path source).toOption.join.map Arrangement.text

/-- Sorting a source whose only import is indented changes it, and sorting the result changes it
again: one more empty line follows the import each time. -/
theorem sortedText_indented_grows :
    sortedText "a.ts" [' ', 'i', 'm', 'p', 'o', 'r', 't', '"', 'a', '"', ';', '\n'] =
      some [' ', 'i', 'm', 'p', 'o', 'r', 't', '"', 'a', '"', ';', '\n', '\n'] ∧
    sortedText "a.ts" [' ', 'i', 'm', 'p', 'o', 'r', 't', '"', 'a', '"', ';', '\n', '\n'] =
      some [' ', 'i', 'm', 'p', 'o', 'r', 't', '"', 'a', '"', ';', '\n', '\n', '\n'] := by
  decide +kernel

end ImportOrder
