import ImportOrder.Proofs.Draft.Removal
import ImportOrder.Proofs.Surgery.Layout

/-! Cutting clips and putting them back in groups moves text about but loses none of it. -/

namespace ImportOrder

namespace Surgery

/-- Clips that end inside a source can be cut out of it. -/
theorem cut_eq_ok {source : Text} (taken : Bool) {clips : List Clip} (some_clip : clips ≠ [])
    (inside : ∀ clip ∈ clips, clip.outer.stop ≤ source.length) :
    cut ⟨source, taken⟩ clips =
      .ok ⟨source.outside (Draft.regions source (clips.map Clip.outer)),
        Draft.takesFinalBreak source (Draft.regions source (clips.map Clip.outer))⟩ := by
  -- A cut of no clips would not touch the draft; this one does.
  have present : clips.isEmpty = false := by simpa using some_clip
  rw [cut, present, ← Draft.keepFrom_regions]
  apply Draft.remove_eq_ok
  · intro span member
    obtain ⟨clip, inClips, rfl⟩ := List.mem_map.mp member
    exact inside clip inClips
  · simpa using some_clip

/-- Where clips land, nothing in front of them was cut. -/
theorem Landing.front {source : Text} {location : Location} {clips : List Clip} {place : Nat}
    (some_clip : clips ≠ []) (inside : ∀ clip ∈ clips, clip.outer.stop ≤ source.length)
    (landing : Landing location clips place) :
    (source.outside (Draft.regions source (clips.map Clip.outer))).take place = source.take place ∧
      place ≤ (source.outside (Draft.regions source (clips.map Clip.outer))).length := by
  -- At either location no clip starts in front of the landing.
  have low : ∀ clip ∈ clips, place ≤ clip.outer.start := by
    cases location with
    | leading =>
      intro clip _
      rw [show place = 0 from landing]
      omega
    | auto => exact (show LeastStart clips place from landing).2
  apply Draft.take_outside_regions
  · -- Some clip starts at or behind the landing and ends inside the source.
    obtain ⟨clip, member⟩ := List.exists_mem_of_ne_nil clips some_clip
    have first := low clip member
    have last := inside clip member
    have ordered := clip.outer.ordered
    omega
  · intro span member
    obtain ⟨clip, inClips, rfl⟩ := List.mem_map.mp member
    exact low clip inClips

/-- A landing exists for every location. -/
theorem Landing.exists (location : Location) {clips : List Clip} (some_clip : clips ≠ []) :
    ∃ place, Landing location clips place := by
  cases location with
  | leading => exact ⟨0, rfl⟩
  | auto =>
    -- The least start is found by the search that the insertion itself makes.
    have least : LeastStart [clips].flatten (firstStart [clips]) :=
      firstStart_least (by simpa using some_clip)
    exact ⟨firstStart [clips], by simpa [Landing] using least⟩

/-- With blank line breaks, the ink of a group is the ink of its values. -/
theorem ink_written {terminator : Text} (blank : Text.allBlank terminator = true)
    (clips : List Clip) :
    Text.ink (written terminator clips) = Text.ink (clips.flatMap Clip.value) := by
  induction clips with
  | nil => rfl
  | cons clip rest ih => simp [ih, Text.ink_eq_nil blank]

/-- With blank line breaks, the ink of a layout is the ink of the values in it. -/
theorem ink_layout {terminator : Text} (blank : Text.allBlank terminator = true)
    (groups : List (List Clip)) :
    Text.ink (layout terminator groups) = Text.ink (groups.flatten.flatMap Clip.value) := by
  induction groups with
  | nil => rfl
  | cons group rest ih =>
    cases rest with
    | nil => simpa using ink_written blank group
    | cons next more =>
      -- The line break between two groups adds no ink either.
      rw [layout_cons_cons, Text.ink_append, Text.ink_append, Text.ink_eq_nil blank, ih,
        ink_written blank]
      simp

/-- A text put into another adds its ink to the other's. -/
theorem ink_splice_perm (text middle : Text) (place : Nat) :
    (Text.ink (text.take place ++ middle ++ text.drop place)).Perm
      (Text.ink text ++ Text.ink middle) := by
  -- The two sides of the place carry the ink of the text between them.
  have parts : Text.ink text = Text.ink (text.take place) ++ Text.ink (text.drop place) := by
    rw [← Text.ink_append, List.take_append_drop]
  rw [Text.ink_append, Text.ink_append, parts, List.append_assoc, List.append_assoc]
  exact List.Perm.append_left _ List.perm_append_comm

/-- Verbatim clips that are apart, with the source outside them, carry the ink of the source. -/
theorem ink_values_perm {source : Text} {clips : List Clip} {groups : List (List Clip)}
    (apart : (clips.map Clip.outer).Pairwise Span.Apart)
    (verbatim : ∀ clip ∈ clips, clip.value = Text.slice source clip.outer.start clip.outer.stop)
    (arranged : Arranges groups clips) :
    (Text.ink (source.outside (clips.map Clip.outer)) ++
      Text.ink (groups.flatten.flatMap Clip.value)).Perm (Text.ink source) := by
  -- Verbatim values are the slices of the outer spans.
  have slices : clips.flatMap Clip.value =
      (clips.map Clip.outer).flatMap fun span => Text.slice source span.start span.stop := by
    rw [List.flatMap_map]
    exact List.flatMap_congr verbatim
  -- The order of the groups does not matter to what they carry.
  have values := arranged.exactly.flatMap_right Clip.value
  rw [slices] at values
  have whole := (Text.outside_append_slices_perm source apart).filter fun c => !isBlank c
  rw [List.filter_append] at whole
  exact ((values.filter fun c => !isBlank c).append_left _).trans whole

/-- Cutting clips out of a source and putting groups of them back always succeeds. The result is the
source without the clips, with the layout of the groups where they land and a line break behind it
unless the line ends there anyway; in front of the landing nothing has moved. The cut takes no ink
but that of the clips, so that the result has the ink of the source, in another order. -/
theorem insert_cut_lossless (source terminator : Text) (location : Location) {clips : List Clip}
    {groups : List (List Clip)} (some_clip : clips ≠ [])
    (inside : ∀ clip ∈ clips, clip.outer.stop ≤ source.length)
    (apart : (clips.map Clip.outer).Pairwise Span.Apart)
    (verbatim : ∀ clip ∈ clips, clip.value = Text.slice source clip.outer.start clip.outer.stop)
    (arranged : Arranges groups clips) :
    ∃ kept done : Draft, ∃ place : Nat,
      cut ⟨source, false⟩ clips = .ok kept ∧
      insert terminator location kept groups = .ok done ∧
      Landing location clips place ∧ place ≤ kept.text.length ∧
      kept.text.take place = source.take place ∧
      done.text = kept.text.take place ++
        (layout terminator groups ++ if endsLine kept place then [] else terminator) ++
        kept.text.drop place ∧
      Text.ink kept.text = Text.ink (source.outside (clips.map Clip.outer)) ∧
      (Text.allBlank terminator = true → (Text.ink done.text).Perm (Text.ink source)) := by
  -- Both steps succeed, each by its own lemma, and the landing ties them together.
  obtain ⟨place, landing⟩ := Landing.exists location some_clip
  obtain ⟨front, within⟩ := landing.front some_clip inside
  have cutInk := Draft.ink_outside_regions source (clips.map Clip.outer)
  refine ⟨_, _, place, cut_eq_ok false some_clip inside,
    insert_eq_ok terminator _ arranged some_clip landing within, landing, within, front, rfl, cutInk, ?_⟩
  intro blank
  refine (ink_splice_perm _ _ place).trans ?_
  -- Line breaks carry no ink, so the values alone are added to what the cut left.
  rw [Text.ink_append, ink_layout blank]
  split
  · rw [cutInk]
    simpa [Text.ink] using ink_values_perm apart verbatim arranged
  · rw [cutInk, Text.ink_eq_nil blank, List.append_nil]
    exact ink_values_perm apart verbatim arranged

/-- Two imports on lines of their own change places; the code that follows the second one stays. -/
theorem insert_cut_lossless_swap :
    ∃ kept done : Draft, ∃ place : Nat,
      cut ⟨['b', '\n', 'a', ';', 'x'], false⟩ [.bare ['b'] 0, .bare ['a', ';'] 2] = .ok kept ∧
      insert ['\n'] .auto kept [[.bare ['a', ';'] 2], [.bare ['b'] 0]] = .ok done ∧
      Landing .auto [.bare ['b'] 0, .bare ['a', ';'] 2] place ∧ place ≤ kept.text.length ∧
      kept.text.take place = List.take place ['b', '\n', 'a', ';', 'x'] ∧
      done.text = kept.text.take place ++
        (layout ['\n'] [[.bare ['a', ';'] 2], [.bare ['b'] 0]] ++
          if endsLine kept place then [] else ['\n']) ++ kept.text.drop place ∧
      Text.ink kept.text = Text.ink (Text.outside ['b', '\n', 'a', ';', 'x']
        ([Clip.bare ['b'] 0, .bare ['a', ';'] 2].map Clip.outer)) ∧
      (Text.allBlank ['\n'] = true →
        (Text.ink done.text).Perm (Text.ink ['b', '\n', 'a', ';', 'x'])) := by
  refine insert_cut_lossless _ _ _ (by decide) (by decide) ?_ (by decide) ⟨by decide, by decide⟩
  refine List.pairwise_cons.mpr ⟨?_, by simp⟩
  intro other member
  rw [List.mem_singleton.mp member]
  exact Span.apart_of_le (by decide)

end Surgery

end ImportOrder
