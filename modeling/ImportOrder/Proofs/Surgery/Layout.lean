import ImportOrder.Surgery
import Mathlib.Data.List.Basic

/-! Where groups land in a draft and what is written there. -/

namespace ImportOrder

/-- A clip without comments whose value stands at an offset. -/
def Clip.bare (value : Text) (start : Nat) : Clip where
  statement := ⟨start, start + value.length, 1, 1, "", [], []⟩
  value
  inner := ⟨start, start + value.length, by omega⟩
  outer := ⟨start, start + value.length, by omega⟩

namespace Surgery

/-- The least start of some clips. -/
def LeastStart (clips : List Clip) (place : Nat) : Prop :=
  (∃ clip ∈ clips, clip.outer.start = place) ∧ ∀ clip ∈ clips, place ≤ clip.outer.start

/-- The offset at which groups made of some clips land. -/
def Landing (location : Location) (clips : List Clip) (place : Nat) : Prop :=
  match location with
  | .leading => place = 0
  | .auto => LeastStart clips place

/-- The values of some clips, each followed by a line break. -/
def written (terminator : Text) (clips : List Clip) : Text :=
  clips.flatMap fun clip => clip.value ++ terminator

/-- The written groups, each kept from the next by one more line break. -/
def layout (terminator : Text) (groups : List (List Clip)) : Text :=
  List.intercalate terminator (groups.map (written terminator))

@[simp] theorem written_nil (terminator : Text) : written terminator [] = [] := rfl

@[simp] theorem written_cons (terminator : Text) (clip : Clip) (rest : List Clip) :
    written terminator (clip :: rest) = clip.value ++ terminator ++ written terminator rest := by
  simp [written]

@[simp] theorem layout_singleton (terminator : Text) (group : List Clip) :
    layout terminator [group] = written terminator group := by
  simp [layout]

@[simp] theorem layout_cons_cons (terminator : Text) (group next : List Clip)
    (rest : List (List Clip)) :
    layout terminator (group :: next :: rest) =
      written terminator group ++ terminator ++ layout terminator (next :: rest) := by
  simp [layout, List.intercalate_cons_cons]

/-- What is written ends with a line break. -/
theorem written_ends (terminator : Text) {clips : List Clip} (some_clip : clips ≠ []) :
    ∃ core, written terminator clips = core ++ terminator := by
  refine ⟨written terminator clips.dropLast ++ (clips.getLast some_clip).value, ?_⟩
  -- The last clip is written last, and its line break with it.
  conv_lhs => rw [← List.dropLast_concat_getLast some_clip]
  simp [written]

/-- A layout ends with a line break. -/
theorem layout_ends (terminator : Text) {groups : List (List Clip)} (some_group : groups ≠ [])
    (filled : ∀ group ∈ groups, group ≠ []) :
    ∃ core, layout terminator groups = core ++ terminator := by
  induction groups with
  | nil => exact absurd rfl some_group
  | cons group rest ih =>
    cases rest with
    | nil =>
      rw [layout_singleton]
      exact written_ends terminator (filled group (by simp))
    | cons next more =>
      -- The end of the layout is the end of what follows the first group.
      obtain ⟨core, shape⟩ := ih (by simp) fun other member => filled other (by simp [member])
      rw [layout_cons_cons, shape]
      exact ⟨written terminator group ++ terminator ++ core, by simp⟩

/-- What is written depends on nothing but the values. -/
theorem written_congr (terminator : Text) {clips others : List Clip}
    (same : clips.map Clip.value = others.map Clip.value) :
    written terminator clips = written terminator others := by
  -- Written out, the other fields of a clip do not occur.
  have flat : ∀ list : List Clip,
      written terminator list = (list.map Clip.value).flatMap fun value => value ++ terminator := by
    intro list
    simp [written, List.flatMap_map]
  rw [flat, flat, same]

/-- Groups with the same values have the same layout. -/
theorem layout_congr (terminator : Text) {groups others : List (List Clip)}
    (same : groups.map (List.map Clip.value) = others.map (List.map Clip.value)) :
    layout terminator groups = layout terminator others := by
  -- Written out, the other fields of the clips do not occur.
  have flat : ∀ list : List (List Clip), list.map (written terminator) =
      (list.map (List.map Clip.value)).map fun values => values.flatMap fun value =>
        value ++ terminator := by
    intro list
    simp [written, List.flatMap_map]
  rw [layout, layout, flat, flat, same]

/-- A group is its written clips, and one more line break on request. -/
theorem block_eq (terminator : Text) (clips : List Clip) (separate : Bool) :
    block terminator clips separate =
      written terminator clips ++ (if separate then terminator else []) := rfl

/-- Whether a line ends at an offset is told by what stands behind the offset. -/
theorem endsLine_append (front behind : Text) (taken : Bool) :
    endsLine ⟨front ++ behind, taken⟩ front.length = endsLine ⟨behind, taken⟩ 0 := by
  -- The offset is at the end of the draft when nothing stands behind it.
  have lengths : ((front.length : Int) == ((front ++ behind).length : Int)) =
      ((0 : Int) == (behind.length : Int)) := by
    rw [Bool.eq_iff_iff, beq_iff_eq, beq_iff_eq, List.length_append]
    omega
  have nonneg : ¬((front.length : Int) < 0) := by omega
  simp only [endsLine, Draft.breakAt, Draft.atLostBreak, Draft.place, Draft.length, lengths,
    if_neg nonneg, Int.toNat_natCast, List.drop_left]
  simp

/-- A text put at an offset stands between what was in front of it and what was behind it. -/
theorem insertAt_append (front behind text : Text) (taken : Bool) :
    Draft.insertAt ⟨front ++ behind, taken⟩ front.length text =
      .ok ⟨front ++ text ++ behind, taken⟩ := by
  -- The length of a part of the draft is an offset in the draft.
  have allowed : 0 ≤ (front.length : Int) ∧
      (front.length : Int) ≤ (Draft.length ⟨front ++ behind, taken⟩ : Int) := by
    simp only [Draft.length, List.length_append]
    omega
  simp only [Draft.insertAt, if_pos allowed, Int.toNat_natCast, List.take_left, List.drop_left]

/-- One group put at an offset, and the offset behind it. -/
theorem insertGroup_append (terminator front behind : Text) (taken : Bool) (group : List Clip)
    (separate : Bool) :
    insertGroup terminator ⟨front ++ behind, taken⟩ group front.length separate =
      .ok (⟨front ++ block terminator group separate ++ behind, taken⟩,
        ((front ++ block terminator group separate).length : Int)) := by
  simp [insertGroup, insertAt_append, Bind.bind, Except.bind, Pure.pure, Except.pure]

/-- Groups land as one layout, with a line break behind it unless the draft ends the line by itself.
-/
theorem insertFrom_append (terminator front behind : Text) (taken : Bool)
    {groups : List (List Clip)} (some_group : groups ≠ []) :
    insertFrom terminator ⟨front ++ behind, taken⟩ front.length groups =
      .ok ⟨front ++ (layout terminator groups ++
        if endsLine ⟨behind, taken⟩ 0 then [] else terminator) ++ behind, taken⟩ := by
  -- The offset moves behind each group in turn, so what stands in front of it varies.
  induction groups generalizing front with
  | nil => exact absurd rfl some_group
  | cons group rest ih =>
    simp only [insertFrom, endsLine_append, insertGroup_append, Bind.bind, Except.bind]
    cases rest with
    | nil =>
      -- The last group is the only one whose extra line break is in doubt.
      cases ends : endsLine ⟨behind, taken⟩ 0 <;> simp [insertFrom, block_eq]
    | cons next more =>
      rw [ih _ (by simp)]
      simp [block_eq]

/-- The least start of the clips of some groups. -/
theorem firstStart_least {groups : List (List Clip)} (some_clip : groups.flatten ≠ []) :
    LeastStart groups.flatten (firstStart groups) := by
  -- The fold over the starts is their minimum.
  have least : (groups.flatten.map fun clip => clip.outer.start).min? = some (firstStart groups) := by
    unfold firstStart
    split
    · rename_i nothing
      exact absurd (List.map_eq_nil_iff.mp nothing) some_clip
    · rename_i first rest starts
      rw [starts]
      rfl
  obtain ⟨member, low⟩ := List.min?_eq_some_iff.mp least
  obtain ⟨clip, inGroups, starts⟩ := List.mem_map.mp member
  exact ⟨⟨clip, inGroups, starts⟩, fun other inOther =>
    low other.outer.start (List.mem_map_of_mem inOther)⟩

/-- Groups that hold exactly some clips, where no group is empty. -/
structure Arranges (groups : List (List Clip)) (clips : List Clip) : Prop where
  filled : ∀ group ∈ groups, group ≠ []
  exactly : groups.flatten.Perm clips

/-- Groups of at least one clip are at least one group. -/
theorem Arranges.some_group {groups : List (List Clip)} {clips : List Clip}
    (arranged : Arranges groups clips) (some_clip : clips ≠ []) : groups ≠ [] := by
  -- Without groups there would be no clips to fill them with.
  intro empty
  have none_left := arranged.exactly
  rw [empty] at none_left
  exact some_clip none_left.symm.eq_nil

/-- Groups that arrange clips are put where the clips ask for. -/
theorem insert_eq_insertFrom {terminator : Text} {location : Location} {draft : Draft}
    {clips : List Clip} {groups : List (List Clip)} {place : Nat}
    (arranged : Arranges groups clips) (some_clip : clips ≠ [])
    (landing : Landing location clips place) :
    insert terminator location draft groups = insertFrom terminator draft place groups := by
  -- No group is empty, so none is dropped.
  have unchanged : (groups.filter fun group => !group.isEmpty) = groups := by
    apply List.filter_eq_self.mpr
    intro group member
    simpa using arranged.filled group member
  cases location with
  | leading =>
    have start : place = 0 := landing
    simp [insert, unchanged, start]
  | auto =>
    have flat : groups.flatten ≠ [] := fun empty => some_clip (by
      have exactly := arranged.exactly
      rw [empty] at exactly
      exact exactly.symm.eq_nil)
    -- Both offsets are the least start of the same clips.
    obtain ⟨⟨clip, member, starts⟩, low⟩ := firstStart_least flat
    obtain ⟨⟨other, member', starts'⟩, low'⟩ := (landing : LeastStart clips place)
    have first := low other (arranged.exactly.mem_iff.mpr member')
    have second := low' clip (arranged.exactly.mem_iff.mp member)
    have start : firstStart groups = place := by omega
    simp only [insert, unchanged, start]

/-- The layout of groups is put where they land, and a line break behind it unless the draft ends
the line by itself. -/
theorem insert_eq_ok (terminator : Text) {location : Location} (draft : Draft) {clips : List Clip}
    {groups : List (List Clip)} {place : Nat} (arranged : Arranges groups clips)
    (some_clip : clips ≠ []) (landing : Landing location clips place)
    (inside : place ≤ draft.text.length) :
    insert terminator location draft groups =
      .ok ⟨draft.text.take place ++ (layout terminator groups ++
        if endsLine draft place then [] else terminator) ++ draft.text.drop place,
        draft.finalBreakTaken⟩ := by
  rw [insert_eq_insertFrom arranged some_clip landing]
  obtain ⟨text, taken⟩ := draft
  -- Name the two parts of the draft, so that the offset is the length of the first.
  obtain ⟨front, behind, rfl, rfl⟩ : ∃ front behind, text = front ++ behind ∧
      place = front.length :=
    ⟨text.take place, text.drop place, (List.take_append_drop place text).symm, by
      rw [List.length_take]
      simp only at inside
      omega⟩
  rw [insertFrom_append terminator front behind taken (arranged.some_group some_clip),
    endsLine_append, List.take_left, List.drop_left]

end Surgery

end ImportOrder
