import ImportOrder.Proofs.Draft.Removal
import ImportOrder.Proofs.Surgery.Layout

/-! The offsets that clips have inside a layout, and the one region that cutting them there takes. -/

namespace ImportOrder

namespace Surgery

/-- Clips that stand at an offset as they are written: each at its place, a line break behind it. -/
def Placed (terminator : Text) : Nat → List Clip → Prop
  | _, [] => True
  | offset, clip :: rest =>
    clip.outer.start = offset ∧ clip.outer.stop = offset + clip.value.length ∧
      Placed terminator (offset + clip.value.length + terminator.length) rest

/-- Groups that stand at an offset as their layout puts them. -/
def PlacedGroups (terminator : Text) : Nat → List (List Clip) → Prop
  | _, [] => True
  | offset, group :: rest =>
    Placed terminator offset group ∧
      PlacedGroups terminator
        (offset + (written terminator group).length + terminator.length) rest

/-- Clips with the values of others, put at an offset as they are written. -/
def settle (terminator : Text) : Nat → List Clip → List Clip
  | _, [] => []
  | offset, clip :: rest =>
    .bare clip.value offset ::
      settle terminator (offset + clip.value.length + terminator.length) rest

/-- Groups with the values of others, put at an offset as their layout puts them. -/
def settleGroups (terminator : Text) : Nat → List (List Clip) → List (List Clip)
  | _, [] => []
  | offset, group :: rest =>
    settle terminator offset group ::
      settleGroups terminator (offset + (written terminator group).length + terminator.length) rest

/-- Settled clips have the values of the others, at the places where these are written. -/
theorem settle_placed (terminator : Text) (offset : Nat) (clips : List Clip) :
    (settle terminator offset clips).map Clip.value = clips.map Clip.value ∧
      Placed terminator offset (settle terminator offset clips) := by
  -- The offset moves on with every clip, so it is kept general.
  induction clips generalizing offset with
  | nil => exact ⟨rfl, trivial⟩
  | cons clip rest ih =>
    obtain ⟨values, placed⟩ := ih (offset + clip.value.length + terminator.length)
    refine ⟨?_, rfl, rfl, placed⟩
    rw [settle, List.map_cons, values]
    rfl

/-- Settled groups have the values of the others, at the places where these are laid out. -/
theorem settleGroups_placed (terminator : Text) (offset : Nat) (groups : List (List Clip)) :
    (settleGroups terminator offset groups).map (List.map Clip.value) =
        groups.map (List.map Clip.value) ∧
      PlacedGroups terminator offset (settleGroups terminator offset groups) := by
  induction groups generalizing offset with
  | nil => exact ⟨rfl, trivial⟩
  | cons group rest ih =>
    obtain ⟨values, placed⟩ := settle_placed terminator offset group
    obtain ⟨others, behind⟩ := ih (offset + (written terminator group).length + terminator.length)
    refine ⟨?_, placed, ?_⟩
    · rw [settleGroups, List.map_cons, List.map_cons, values, others]
    · -- The next group stands behind the same text, which is told by the values alone.
      rw [written_congr terminator values]
      exact behind

/-- Placed clips lie inside what is written. -/
theorem Placed.bounds {terminator : Text} {offset : Nat} {clips : List Clip}
    (placed : Placed terminator offset clips) {clip : Clip} (member : clip ∈ clips) :
    offset ≤ clip.outer.start ∧
      clip.outer.stop + terminator.length ≤ offset + (written terminator clips).length := by
  induction clips generalizing offset with
  | nil => simp at member
  | cons first rest ih =>
    obtain ⟨starts, stops, placed⟩ := placed
    simp only [written_cons, List.length_append]
    -- The first clip opens what is written, and the others stand further on.
    rcases List.mem_cons.mp member with same | member
    · subst same
      omega
    · have := ih placed member
      omega

/-- Placed clips come one behind the other. -/
theorem Placed.ascending {terminator : Text} {offset : Nat} {clips : List Clip}
    (placed : Placed terminator offset clips) :
    clips.Pairwise fun a b => a.outer.stop ≤ b.outer.start := by
  induction clips generalizing offset with
  | nil => exact List.Pairwise.nil
  | cons first rest ih =>
    obtain ⟨starts, stops, placed⟩ := placed
    refine List.pairwise_cons.mpr ⟨?_, ih placed⟩
    intro other member
    -- The others stand behind the first clip and its line break.
    have := (placed.bounds member).1
    omega

/-- Placed clips slice their values out of the text that holds what is written. -/
theorem Placed.slice {terminator front : Text} (behind : Text) {clips : List Clip}
    (placed : Placed terminator front.length clips) {clip : Clip} (member : clip ∈ clips) :
    Text.slice (front ++ written terminator clips ++ behind) clip.outer.start clip.outer.stop =
      clip.value := by
  induction clips generalizing front with
  | nil => simp at member
  | cons first rest ih =>
    obtain ⟨starts, stops, placed⟩ := placed
    rcases List.mem_cons.mp member with same | member
    · subst same
      rw [starts, stops]
      simp [Text.slice]
    · -- The first clip and its line break stand in front of all the others.
      have shifted : Placed terminator (front ++ first.value ++ terminator).length rest := by
        simpa [Nat.add_assoc] using placed
      simpa using ih shifted member

/-- Clips of placed groups lie inside the layout. -/
theorem PlacedGroups.bounds {terminator : Text} {offset : Nat} {groups : List (List Clip)}
    (placed : PlacedGroups terminator offset groups) {clip : Clip}
    (member : clip ∈ groups.flatten) :
    offset ≤ clip.outer.start ∧
      clip.outer.stop + terminator.length ≤ offset + (layout terminator groups).length := by
  induction groups generalizing offset with
  | nil => simp at member
  | cons group rest ih =>
    obtain ⟨first, placed⟩ := placed
    rw [List.flatten_cons, List.mem_append] at member
    cases rest with
    | nil =>
      rw [layout_singleton]
      exact first.bounds (by simpa using member)
    | cons next more =>
      rw [layout_cons_cons, List.length_append, List.length_append]
      -- A clip is in the first group or in the layout of the others.
      rcases member with member | member
      · have := first.bounds member
        omega
      · have := ih placed member
        omega

/-- The clips of placed groups come one behind the other. -/
theorem PlacedGroups.ascending {terminator : Text} {offset : Nat} {groups : List (List Clip)}
    (placed : PlacedGroups terminator offset groups) :
    groups.flatten.Pairwise fun a b => a.outer.stop ≤ b.outer.start := by
  induction groups generalizing offset with
  | nil => exact List.Pairwise.nil
  | cons group rest ih =>
    obtain ⟨first, placed⟩ := placed
    rw [List.flatten_cons]
    refine List.pairwise_append.mpr ⟨first.ascending, ih placed, ?_⟩
    intro a inFirst b inRest
    -- The first group ends where the layout of the others has not begun.
    have left := (first.bounds inFirst).2
    have right := (placed.bounds inRest).1
    omega

/-- Clips of placed groups slice their values out of the text that holds the layout. -/
theorem PlacedGroups.slice {terminator front : Text} (behind : Text) {groups : List (List Clip)}
    (placed : PlacedGroups terminator front.length groups) {clip : Clip}
    (member : clip ∈ groups.flatten) :
    Text.slice (front ++ layout terminator groups ++ behind) clip.outer.start clip.outer.stop =
      clip.value := by
  induction groups generalizing front with
  | nil => simp at member
  | cons group rest ih =>
    obtain ⟨first, placed⟩ := placed
    rw [List.flatten_cons, List.mem_append] at member
    cases rest with
    | nil =>
      rw [layout_singleton]
      exact first.slice behind (by simpa using member)
    | cons next more =>
      rcases member with member | member
      · simpa using first.slice (terminator ++ layout terminator (next :: more) ++ behind) member
      · -- The first group and the line break behind it stand in front of the others.
        have shifted : PlacedGroups terminator
            (front ++ written terminator group ++ terminator).length (next :: more) := by
          simpa [Nat.add_assoc] using placed
        simpa using ih shifted member

/-- A blank part of a text is blank between its offsets. -/
theorem blankBetween_middle (front behind : Text) {middle : Text}
    (blank : Text.allBlank middle = true) :
    Text.BlankBetween (front ++ middle ++ behind) front.length (front.length + middle.length) := by
  rw [← Text.allBlank_slice_iff]
  simpa [Text.slice] using blank

/-- Merging walks over placed clips and takes them into one region. -/
theorem mergeFrom_placed {terminator front behind text : Text} {clips : List Clip} {current : Span}
    (more : List Span) (blank : Text.allBlank terminator = true) (some_clip : clips ≠ [])
    (whole : text = front ++ written terminator clips ++ behind)
    (placed : Placed terminator front.length clips) (before : current.stop ≤ front.length)
    (gap : Text.BlankBetween text current.stop front.length) :
    ∃ region : Span, region.start = current.start ∧
      region.stop + terminator.length = front.length + (written terminator clips).length ∧
      Draft.mergeFrom text current (clips.map Clip.outer ++ more) =
        Draft.mergeFrom text region more := by
  -- The region grows clip by clip, and what it has passed joins the front.
  induction clips generalizing front current with
  | nil => exact absurd rfl some_clip
  | cons clip rest ih =>
    obtain ⟨starts, stops, placed⟩ := placed
    rw [← starts] at before gap
    obtain ⟨grown, sameStart, sameStop, merged⟩ :=
      Draft.mergeFrom_cons_blank (rest.map Clip.outer ++ more) before gap
    rw [List.map_cons, List.cons_append, merged, written_cons, List.length_append,
      List.length_append]
    cases rest with
    | nil => exact ⟨grown, sameStart, by simp only [written_nil, List.length_nil]; omega, rfl⟩
    | cons next others =>
      -- The line break behind the clip is the gap in front of the next one.
      have moved : text = (front ++ clip.value ++ terminator) ++
          written terminator (next :: others) ++ behind := by
        simp [whole]
      have reached : (front ++ clip.value ++ terminator).length =
          grown.stop + terminator.length := by
        simp only [List.length_append]
        omega
      have nextGap := blankBetween_middle (front ++ clip.value)
        (written terminator (next :: others) ++ behind) blank
      rw [← List.append_assoc, ← moved, List.length_append, ← stops, ← sameStop,
        ← reached] at nextGap
      obtain ⟨region, start, stop, merged⟩ :=
        ih (by simp) moved (by rwa [reached, sameStop, stops]) (by omega) nextGap
      exact ⟨region, by omega, by omega, merged⟩

/-- Merging takes the clips of placed groups into a single region. -/
theorem mergeFrom_placedGroups {terminator front behind text : Text} {groups : List (List Clip)}
    {current : Span} (blank : Text.allBlank terminator = true) (some_group : groups ≠ [])
    (filled : ∀ group ∈ groups, group ≠ [])
    (whole : text = front ++ layout terminator groups ++ behind)
    (placed : PlacedGroups terminator front.length groups) (before : current.stop ≤ front.length)
    (gap : Text.BlankBetween text current.stop front.length) :
    ∃ region : Span, region.start = current.start ∧
      region.stop + terminator.length = front.length + (layout terminator groups).length ∧
      Draft.mergeFrom text current (groups.flatten.map Clip.outer) = [region] := by
  -- The region grows group by group, in the same way.
  induction groups generalizing front current with
  | nil => exact absurd rfl some_group
  | cons group rest ih =>
    obtain ⟨first, placed⟩ := placed
    have some_clip := filled group (by simp)
    cases rest with
    | nil =>
      rw [layout_singleton] at whole ⊢
      obtain ⟨region, start, stop, merged⟩ :=
        mergeFrom_placed [] blank some_clip whole first before gap
      exact ⟨region, start, stop, by simpa [Draft.mergeFrom] using merged⟩
    | cons next more =>
      rw [layout_cons_cons] at whole ⊢
      have split : text = front ++ written terminator group ++
          (terminator ++ layout terminator (next :: more) ++ behind) := by
        simp [whole]
      obtain ⟨grown, sameStart, sameStop, merged⟩ :=
        mergeFrom_placed ((next :: more).flatten.map Clip.outer) blank some_clip split first
          before gap
      have moved : text = (front ++ written terminator group ++ terminator) ++
          layout terminator (next :: more) ++ behind := by
        simp [whole]
      -- Two line breaks stand between the groups: the last clip's own and the one between them.
      obtain ⟨core, shape⟩ := written_ends terminator some_clip
      have double : Text.allBlank (terminator ++ terminator) = true := by
        simpa [Text.allBlank] using blank
      have nextGap := blankBetween_middle (front ++ core)
        (layout terminator (next :: more) ++ behind) double
      rw [shape, List.length_append] at sameStop
      -- The region stops in front of the two line breaks, and the next group starts behind them.
      have reached : (front ++ core).length = grown.stop := by
        rw [List.length_append]
        omega
      have width : (front ++ written terminator group ++ terminator).length =
          grown.stop + (terminator ++ terminator).length := by
        simp only [shape, List.length_append]
        omega
      rw [reached, ← width] at nextGap
      have same : front ++ core ++ (terminator ++ terminator) ++
          (layout terminator (next :: more) ++ behind) = text := by
        simp [whole, shape]
      rw [same] at nextGap
      obtain ⟨region, start, stop, rest⟩ := ih (by simp)
        (fun other member => filled other (by simp [member])) moved
        (by simpa [Nat.add_assoc] using placed) (by omega) nextGap
      refine ⟨region, by omega, ?_, ?_⟩
      · simp only [List.length_append] at stop ⊢
        omega
      · rw [List.flatten_cons, List.map_append, merged, rest]

/-- The first clip of placed groups stands where the layout starts. -/
theorem PlacedGroups.first {terminator : Text} {offset : Nat} {groups : List (List Clip)}
    (placed : PlacedGroups terminator offset groups) (some_group : groups ≠ [])
    (filled : ∀ group ∈ groups, group ≠ []) :
    ∃ clip rest, groups.flatten = clip :: rest ∧ clip.outer.start = offset := by
  cases groups with
  | nil => exact absurd rfl some_group
  | cons group more =>
    cases group with
    | nil => exact absurd rfl (filled [] (by simp))
    | cons clip others => exact ⟨clip, others ++ more.flatten, by simp, placed.1.1⟩

/-- Cutting the clips of placed groups, in whatever order they come, takes one region: from the first
of them to the end of the last, and the rest of the line if it starts one. -/
theorem regions_placedGroups {terminator front : Text} (behind : Text) {groups : List (List Clip)}
    {clips : List Clip} (blank : Text.allBlank terminator = true)
    (arranged : Arranges groups clips) (some_clip : clips ≠ [])
    (placed : PlacedGroups terminator front.length groups) :
    ∃ region : Span, region.start = front.length ∧
      region.stop + terminator.length = front.length + (layout terminator groups).length ∧
      Draft.regions (front ++ layout terminator groups ++ behind) (clips.map Clip.outer) =
        [Draft.extend (front ++ layout terminator groups ++ behind) region] := by
  have some_group := arranged.some_group some_clip
  -- The clips stand in the order of the groups, so sorting them gives that order.
  have sorted : (clips.map Clip.outer).mergeSort Span.precedes =
      groups.flatten.map Clip.outer := by
    rw [← Draft.mergeSort_eq_of_perm (arranged.exactly.map Clip.outer)]
    exact Draft.mergeSort_of_ascending (List.pairwise_map.mpr placed.ascending)
  -- The region grows from nothing at the start of the layout.
  let origin : Span := ⟨front.length, front.length, Nat.le_refl _⟩
  have nothing : Text.BlankBetween (front ++ layout terminator groups ++ behind) origin.stop
      front.length := Text.blankBetween_self _ _
  obtain ⟨region, start, stop, merged⟩ := mergeFrom_placedGroups blank some_group arranged.filled
    rfl placed (Nat.le_refl _) nothing
  refine ⟨region, start, stop, ?_⟩
  -- Merging starts with the first clip, which may be seen as joined to the empty origin.
  obtain ⟨clip, rest, flat, starts⟩ := placed.first some_group arranged.filled
  rw [Draft.regions, sorted]
  rw [flat, List.map_cons] at merged ⊢
  have same : origin = ⟨clip.outer.start, clip.outer.start, Nat.le_refl _⟩ := by
    simp only [origin, starts]
  rw [Draft.merge_cons, ← same, merged]
  rfl

end Surgery

end ImportOrder
