import ImportOrder.Options.Problems
import ImportOrder.Ordering.Sorter
import ImportOrder.Yaml.Reader
import Mathlib.Data.List.Perm.Basic

/-! What becomes of the entries of the groups. An entry that is no group is left out when the groups
are read, and a group whose bucket was named before is left out when they are used. The check of the
options reports exactly these entries, the ones as malformed and the others as repeated, unless there
are pairs among them: a pair is read as a group, and yet it is reported as malformed. -/

namespace ImportOrder

/-- The place of an entry that is reported as malformed. -/
def OptionProblem.malformed? : OptionProblem → Option Nat
  | .badGroup index _ => some index
  | _ => none

/-- The place of an entry that is reported to repeat a bucket. -/
def OptionProblem.repeated? : OptionProblem → Option Nat
  | .duplicateBucket index _ => some index
  | _ => none

/-- Whether a problem says that an entry of the groups is not used. -/
def OptionProblem.isLoss : OptionProblem → Bool
  | .badGroup .. => true
  | .duplicateBucket .. => true
  | _ => false

/-- Whether a document is a pair. -/
def Document.isPair : Document → Bool
  | .pair .. => true
  | _ => false

namespace OptionCheck

/-- The groups that entries are read as, each with the place of its entry; the first place is
`index`. -/
def placedGroups (index : Nat) (items : List Document) : List (Nat × Group) :=
  (items.zipIdx index).filterMap fun placed => (Group.ofDocument? placed.1).map (placed.2, ·)

/-- The groups with their places of which no bucket is in `seen` or occurs before. -/
def firstsFrom (seen : List String) : List (Nat × Group) → List (Nat × Group)
  | [] => []
  | (place, group) :: rest =>
    -- The places stay with the groups, so it can be told which entries are used.
    if seen.contains group.bucket then firstsFrom seen rest
    else (place, group) :: firstsFrom (group.bucket :: seen) rest

/-- Whether an entry names its bucket by a text, if it is a list of two items or a pair. -/
def namedByText : Document → Bool
  | .list [bucket, _] => bucket.text?.isSome
  | .pair bucket _ => bucket.text?.isSome
  | _ => true

section Provenance

/-- The first entry is read as a group or left out. -/
theorem placedGroups_cons (index : Nat) (entry : Document) (items : List Document) :
    placedGroups index (entry :: items) =
      (Group.ofDocument? entry).toList.map (index, ·) ++ placedGroups (index + 1) items := by
  unfold placedGroups
  cases read : Group.ofDocument? entry with
  | none => simp [read]
  | some group => simp [read]

/-- Without their places the groups are those that are read. -/
theorem map_placedGroups (index : Nat) (items : List Document) :
    (placedGroups index items).map Prod.snd = groupsOf (.list items) := by
  -- The places do not matter, so the first one stays general.
  induction items generalizing index with
  | nil => rfl
  | cons entry rest ih =>
    have rest_eq : (placedGroups (index + 1) rest).map Prod.snd =
        rest.filterMap Group.ofDocument? := ih (index + 1)
    rw [placedGroups_cons, List.map_append, rest_eq, groupsOf]
    cases read : Group.ofDocument? entry with
    | none => simp [read]
    | some group => simp [read]

/-- Without their places the first groups are those that are used. -/
theorem map_firstsFrom (seen : List String) (placed : List (Nat × Group)) :
    (firstsFrom seen placed).map Prod.snd =
      Sorter.distinctFrom seen (placed.map Prod.snd) := by
  -- Both go through the groups with the same buckets seen before.
  induction placed generalizing seen with
  | nil => rfl
  | cons first rest ih =>
    obtain ⟨place, group⟩ := first
    rw [firstsFrom, List.map_cons, Sorter.distinctFrom]
    split
    · exact ih seen
    · exact congrArg (group :: ·) (ih _)

/-- The first groups stay in their order. -/
theorem firstsFrom_sublist (seen : List String) (placed : List (Nat × Group)) :
    (firstsFrom seen placed).Sublist placed := by
  -- The buckets seen before change from group to group.
  induction placed generalizing seen with
  | nil => exact .slnil
  | cons first rest ih =>
    obtain ⟨place, group⟩ := first
    rw [firstsFrom]
    split
    · -- A group whose bucket was seen is passed over.
      exact (ih seen).cons _
    · exact (ih _).cons_cons _

/-- The groups in use are the first ones of their buckets, and at most one more for the rest. -/
theorem effectiveGroups_eq (groups : List Group) :
    ∃ extra, Sorter.effectiveGroups groups = Sorter.distinctFrom [] groups ++ extra ∧
      (extra = [] ∨ extra = [⟨Bucket.rest, Algorithm.persist⟩]) := by
  -- The rest is added unless one of the groups is for it.
  unfold Sorter.effectiveGroups
  dsimp only
  split
  · exact ⟨[], (List.append_nil _).symm, .inl rfl⟩
  · exact ⟨_, rfl, .inr rfl⟩

end Provenance

section Entries

variable {seen : List String} {index : Nat} {entry : Document} {items : List Document}

/-- The check takes an entry other than a pair for a group exactly if it is read as one, with the
same parts. -/
theorem ofDocument?_eq (single : entry.isPair = false) :
    Group.ofDocument? entry =
      (groupParts? entry).map fun parts => ⟨parts.1.plain, parts.2.plain⟩ := by
  cases entry with
  | pair => cases single
  | text bucket => rfl
  | list items =>
    -- Only a list of two items is a group.
    rcases items with _ | ⟨bucket, _ | ⟨algorithm, _ | ⟨more, rest⟩⟩⟩
    all_goals rfl
  | _ => rfl

/-- An entry other than a pair is no group, or it names its bucket by a text. -/
theorem groupParts?_cases (named : namedByText entry = true) (single : entry.isPair = false) :
    groupParts? entry = none ∧ Group.ofDocument? entry = none ∨
      ∃ group algorithm, groupParts? entry = some (.text group.bucket, algorithm) ∧
        Group.ofDocument? entry = some group := by
  -- Reading and checking take the same shapes for groups, once pairs are left aside.
  rw [ofDocument?_eq single]
  unfold groupParts?
  split
  · rename_i bucket
    exact .inr ⟨⟨bucket, Algorithm.persist⟩, _, rfl, rfl⟩
  · -- A bucket that is no text is ruled out.
    rename_i bucket algorithm
    cases bucket with
    | text name => exact .inr ⟨⟨name, algorithm.plain⟩, algorithm, rfl, rfl⟩
    | _ => cases named
  · exact .inl ⟨rfl, rfl⟩

/-- A group is reported for its bucket that was named before; all else that is said of it leaves it
in use. -/
theorem groupEntry_eq {group : Group} {algorithm : Document}
    (parts : groupParts? entry = some (.text group.bucket, algorithm)) (seen : List String)
    (index : Nat) :
    ∃ remarks, groupEntry seen index entry =
        remarks ++ (if seen.contains group.bucket then [.duplicateBucket index group.bucket] else []) ∧
      ∀ problem ∈ remarks, problem.isLoss = false := by
  -- The remarks are what is in front of the report of a repeated bucket.
  refine ⟨_, by rw [groupEntry, parts]; rfl, ?_⟩
  intro problem member
  -- The remarks are on a bucket or a way to order it that is not known.
  rcases List.mem_append.mp member with about | about
  · split at about
    · simp at about
    · rw [List.mem_singleton.mp about]
      rfl
  · split at about
    · simp at about
    · rw [List.mem_singleton.mp about]
      rfl

/-- Problems that tell of no loss are at no place of a malformed or repeated entry. -/
theorem places_of_remarks {remarks : List OptionProblem}
    (harmless : ∀ problem ∈ remarks, problem.isLoss = false) :
    remarks.filterMap OptionProblem.malformed? = [] ∧
      remarks.filterMap OptionProblem.repeated? = [] := by
  rw [List.filterMap_eq_nil_iff, List.filterMap_eq_nil_iff]
  refine ⟨fun problem member => ?_, fun problem member => ?_⟩
  · cases problem with
    | badGroup => cases harmless _ member
    | _ => rfl
  · cases problem with
    | duplicateBucket => cases harmless _ member
    | _ => rfl

/-- Every entry is read as a group or reported as malformed, and none is both, if none is a pair. -/
theorem placed_malformed_perm (named : ∀ entry ∈ items, namedByText entry = true)
    (single : ∀ entry ∈ items, entry.isPair = false) (seen : List String) (index : Nat) :
    ((placedGroups index items).map Prod.fst ++
      (groupEntries seen index items).filterMap OptionProblem.malformed?).Perm
      (List.range' index items.length) := by
  -- Whether an entry is malformed has nothing to do with the buckets seen before it.
  induction items generalizing seen index with
  | nil => exact .nil
  | cons entry rest ih =>
    obtain ⟨entry_named, rest_named⟩ := List.forall_mem_cons.mp named
    obtain ⟨entry_single, rest_single⟩ := List.forall_mem_cons.mp single
    have rest_perm := ih rest_named rest_single (seenAfter seen entry) (index + 1)
    -- The place of the first entry comes in front of those of the rest on the right, and goes to
    -- one side on the left.
    rw [placedGroups_cons, groupEntries, List.filterMap_append, List.length_cons,
      List.range'_succ]
    rcases groupParts?_cases entry_named entry_single with
      ⟨parts, read⟩ | ⟨group, algorithm, parts, read⟩
    · -- The place is among those of the malformed entries, which come behind.
      rw [read, groupEntry, parts]
      exact List.perm_middle.trans (rest_perm.cons index)
    · obtain ⟨remarks, problems, harmless⟩ := groupEntry_eq parts seen index
      -- The place is among those of the groups, and nothing calls the entry malformed.
      have silent : (groupEntry seen index entry).filterMap OptionProblem.malformed? = [] := by
        rw [problems, List.filterMap_append, (places_of_remarks harmless).1]
        split <;> rfl
      rw [read, silent]
      exact rest_perm.cons index

/-- Every group that is read is used or reported as repeated, and none is both, if no entry is a
pair. -/
theorem firsts_repeated_perm (named : ∀ entry ∈ items, namedByText entry = true)
    (single : ∀ entry ∈ items, entry.isPair = false) (index : Nat) {known seen : List String}
    (same : ∀ bucket, bucket ∈ known ↔ bucket ∈ seen) :
    ((firstsFrom known (placedGroups index items)).map Prod.fst ++
      (groupEntries seen index items).filterMap OptionProblem.repeated?).Perm
      ((placedGroups index items).map Prod.fst) := by
  -- The check remembers a bucket each time it is named, and the use only the first time.
  induction items generalizing index known seen with
  | nil => exact .nil
  | cons entry rest ih =>
    obtain ⟨entry_named, rest_named⟩ := List.forall_mem_cons.mp named
    obtain ⟨entry_single, rest_single⟩ := List.forall_mem_cons.mp single
    rw [placedGroups_cons, groupEntries, List.filterMap_append]
    rcases groupParts?_cases entry_named entry_single with
      ⟨parts, read⟩ | ⟨group, algorithm, parts, read⟩
    · -- A malformed entry is on neither side, and it names no bucket.
      have unseen : seenAfter seen entry = seen := by simp [seenAfter, parts]
      rw [read, unseen, groupEntry, parts]
      exact ih rest_named rest_single (index + 1) same
    · obtain ⟨remarks, problems, harmless⟩ := groupEntry_eq parts seen index
      have remembered : seenAfter seen entry = group.bucket :: seen := by
        simp [seenAfter, parts, Document.text?]
      rw [read, remembered, problems, List.filterMap_append, (places_of_remarks harmless).2,
        List.nil_append, Option.toList_some, List.map_singleton, List.singleton_append, firstsFrom,
        List.map_cons]
      by_cases before : group.bucket ∈ seen
      · -- The place is among those of the repeated entries, which come behind.
        have again : ∀ bucket, bucket ∈ known ↔ bucket ∈ group.bucket :: seen := by
          intro bucket
          rw [List.mem_cons, same]
          exact ⟨.inr, fun either => either.elim (fun eq => eq ▸ before) id⟩
        rw [if_pos (List.contains_iff_mem.mpr before),
          if_pos (List.contains_iff_mem.mpr ((same _).mpr before))]
        exact List.perm_middle.trans ((ih rest_named rest_single (index + 1) again).cons index)
      · -- The group is used, and both sides remember its bucket from here on.
        have once : ∀ bucket, bucket ∈ group.bucket :: known ↔ bucket ∈ group.bucket :: seen := by
          intro bucket
          rw [List.mem_cons, List.mem_cons, same]
        rw [if_neg (mt List.contains_iff_mem.mp before),
          if_neg (mt List.contains_iff_mem.mp (mt (same _).mp before))]
        exact (ih rest_named rest_single (index + 1) once).cons index

end Entries

/-- The problems that tell of a loss are those of malformed and of repeated entries. -/
theorem countP_isLoss (problems : List OptionProblem) :
    problems.countP OptionProblem.isLoss =
      (problems.filterMap OptionProblem.malformed?).length +
        (problems.filterMap OptionProblem.repeated?).length := by
  induction problems with
  | nil => rfl
  | cons problem rest ih =>
    rw [List.countP_cons, ih, List.filterMap_cons, List.filterMap_cons]
    -- A problem is of one kind, of the other, or of neither.
    cases problem with
    | badGroup => exact Nat.add_right_comm _ _ _
    | duplicateBucket => exact Nat.add_assoc _ _ _
    | _ => rfl

/-- The places of the problems of one kind are those at which there is such a problem. -/
theorem mem_places {α : Type} {place? : OptionProblem → Option Nat} {kind : Nat → α → OptionProblem}
    (of_kind : ∀ problem index, place? problem = some index ↔ ∃ detail, kind index detail = problem)
    {problems : List OptionProblem} {index : Nat} :
    index ∈ problems.filterMap place? ↔ ∃ detail, kind index detail ∈ problems := by
  rw [List.mem_filterMap]
  constructor
  · rintro ⟨problem, member, place⟩
    obtain ⟨detail, rfl⟩ := (of_kind problem index).mp place
    exact ⟨detail, member⟩
  · rintro ⟨detail, member⟩
    exact ⟨_, member, (of_kind _ _).mpr ⟨detail, rfl⟩⟩

/-- A malformed entry is reported at its place. -/
theorem malformed?_eq_some (problem : OptionProblem) (index : Nat) :
    problem.malformed? = some index ↔ ∃ value, .badGroup index value = problem := by
  cases problem <;> simp [OptionProblem.malformed?, eq_comm]

/-- A repeated entry is reported at its place. -/
theorem repeated?_eq_some (problem : OptionProblem) (index : Nat) :
    problem.repeated? = some index ↔ ∃ bucket, .duplicateBucket index bucket = problem := by
  cases problem <;> simp [OptionProblem.repeated?, eq_comm]

/-- A member of two lists that make up a list without repetition is in exactly one of them. -/
theorem mem_right_iff {first second all : List Nat} (perm : (first ++ second).Perm all)
    (distinct : all.Nodup) (place : Nat) : place ∈ second ↔ place ∈ all ∧ place ∉ first := by
  -- The two lists together repeat nothing either, so they share nothing.
  have apart := (List.nodup_append.mp (perm.nodup_iff.mpr distinct)).2.2
  rw [← perm.mem_iff, List.mem_append]
  -- Being in all of them and not in the one part leaves the other part.
  constructor
  · intro behind
    exact ⟨.inr behind, fun front => apart place front place behind rfl⟩
  · rintro ⟨front | behind, absent⟩
    · exact absurd front absent
    · exact behind

/-- The entries that come to nothing are those reported. Each group that is read has the place of its
entry, and those in use are the first ones of their buckets, with at most one more for the rest. An
entry is reported as malformed if and only if it is not read as a group, and as repeated if and only
if its group is read and not used; so the groups used are as many as the entries not reported. -/
structure LossesReported (items : List Document) : Prop where
  read : (placedGroups 0 items).map Prod.snd = groupsOf (.list items)
  used : ∃ extra, Sorter.effectiveGroups (groupsOf (.list items)) =
      (firstsFrom [] (placedGroups 0 items)).map Prod.snd ++ extra ∧
    (extra = [] ∨ extra = [⟨Bucket.rest, Algorithm.persist⟩])
  malformed : ∀ index < items.length,
    (∃ value, .badGroup index value ∈ OptionCheck.groups (.list items)) ↔
      index ∉ (placedGroups 0 items).map Prod.fst
  repeated : ∀ index < items.length,
    (∃ bucket, .duplicateBucket index bucket ∈ OptionCheck.groups (.list items)) ↔
      index ∈ (placedGroups 0 items).map Prod.fst ∧
        index ∉ (firstsFrom [] (placedGroups 0 items)).map Prod.fst
  count : (firstsFrom [] (placedGroups 0 items)).length +
    (OptionCheck.groups (.list items)).countP OptionProblem.isLoss = items.length

/-- Among entries without pairs that name their buckets by texts, the check reports exactly those
that come to nothing. -/
theorem lossesReported_of_single {items : List Document}
    (named : ∀ entry ∈ items, namedByText entry = true)
    (single : ∀ entry ∈ items, entry.isPair = false) : LossesReported items := by
  -- The places fall apart twice: into read and malformed, and the read ones into used and repeated.
  have read : ((placedGroups 0 items).map Prod.fst ++
      (OptionCheck.groups (.list items)).filterMap OptionProblem.malformed?).Perm
      (List.range' 0 items.length) := placed_malformed_perm named single [] 0
  have kept : ((firstsFrom [] (placedGroups 0 items)).map Prod.fst ++
      (OptionCheck.groups (.list items)).filterMap OptionProblem.repeated?).Perm
      ((placedGroups 0 items).map Prod.fst) :=
    firsts_repeated_perm named single 0 fun _ => Iff.rfl
  have places : ((placedGroups 0 items).map Prod.fst).Nodup :=
    (List.nodup_append.mp (read.nodup_iff.mpr List.nodup_range')).1
  refine ⟨map_placedGroups 0 items, ?_, ?_, ?_, ?_⟩
  · rw [map_firstsFrom, map_placedGroups]
    exact effectiveGroups_eq _
  · intro index inside
    rw [← mem_places malformed?_eq_some, mem_right_iff read List.nodup_range']
    simp [inside]
  · intro index _
    rw [← mem_places repeated?_eq_some, mem_right_iff kept places]
  · -- Each place is counted once: as used, as repeated or as malformed.
    have all := read.length_eq
    have some_kept := kept.length_eq
    rw [countP_isLoss]
    simp only [List.length_append, List.length_map, List.length_range'] at all some_kept
    omega

section Pairs

/-- The entries that are read as groups are those at the places of the groups. -/
theorem mem_placedGroups_iff {items : List Document} {index : Nat} (inside : index < items.length) :
    index ∈ (placedGroups 0 items).map Prod.fst ↔ (Group.ofDocument? items[index]).isSome := by
  unfold placedGroups
  rw [List.map_filterMap, List.mem_filterMap]
  -- An entry has one place, so the entry found at a place is the one asked for.
  constructor
  · rintro ⟨⟨entry, place⟩, member, found⟩
    obtain ⟨same, at_place⟩ : (Group.ofDocument? entry).isSome ∧ place = index := by
      cases read : Group.ofDocument? entry with
      | none => simp [read] at found
      | some group => exact ⟨rfl, by simpa [read] using found⟩
    obtain ⟨-, -, here⟩ := List.mem_zipIdx member
    simp only [at_place, Nat.sub_zero] at here
    rwa [← here]
  · intro read
    obtain ⟨group, read⟩ := Option.isSome_iff_exists.mp read
    refine ⟨(items[index], index), ?_, by simp [read]⟩
    rw [List.mem_zipIdx_iff_getElem?, List.getElem?_eq_getElem inside]

/-- What is said of an entry that the check takes for a group does not call it malformed. -/
theorem malformed?_groupEntry {seen : List String} {index : Nat} {entry : Document}
    {parts : Document × Document} (found : groupParts? entry = some parts) :
    (groupEntry seen index entry).filterMap OptionProblem.malformed? = [] := by
  obtain ⟨bucket, algorithm⟩ := parts
  rw [groupEntry, found]
  dsimp only
  -- Each of the three remarks is there or not.
  cases isOneOf buckets bucket <;> cases isOneOf algorithms algorithm <;> cases bucket.text? <;>
    simp [OptionProblem.malformed?, apply_ite (List.filterMap OptionProblem.malformed?)]

/-- The entries that are reported as malformed are those that the check takes for no group. -/
theorem mem_malformed_iff (seen : List String) (first : Nat) (items : List Document) (place : Nat) :
    place ∈ (groupEntries seen first items).filterMap OptionProblem.malformed? ↔
      ∃ entry, (entry, place) ∈ items.zipIdx first ∧ groupParts? entry = none := by
  -- The buckets seen before an entry do not matter for its shape.
  induction items generalizing seen first with
  | nil => simp [groupEntries]
  | cons entry rest ih =>
    rw [groupEntries, List.filterMap_append, List.mem_append, ih, List.zipIdx_cons]
    cases found : groupParts? entry with
    | none => simp [groupEntry, found, OptionProblem.malformed?, or_and_right, exists_or]
    | some parts =>
      rw [malformed?_groupEntry found]
      simp only [List.not_mem_nil, false_or, List.mem_cons, Prod.mk.injEq]
      constructor
      · rintro ⟨other, later, none_found⟩
        exact ⟨other, .inr later, none_found⟩
      · rintro ⟨other, ⟨rfl, -⟩ | later, none_found⟩
        · rw [found] at none_found
          cases none_found
        · exact ⟨other, later, none_found⟩

/-- An entry is reported as malformed if and only if it is not read as a group, or it is a pair. -/
theorem malformed_iff {items : List Document} {index : Nat} (inside : index < items.length) :
    (∃ value, .badGroup index value ∈ OptionCheck.groups (.list items)) ↔
      index ∉ (placedGroups 0 items).map Prod.fst ∨ items[index].isPair = true := by
  have here : ∀ entry, (entry, index) ∈ items.zipIdx 0 ↔ entry = items[index] := by
    intro entry
    rw [List.mem_zipIdx_iff_getElem?, List.getElem?_eq_getElem inside, Option.some.injEq, eq_comm]
  rw [← mem_places malformed?_eq_some, OptionCheck.groups, mem_malformed_iff,
    mem_placedGroups_iff inside]
  simp only [here, exists_eq_left]
  -- A pair is the one shape on which reading and checking disagree.
  cases paired : items[index].isPair with
  | false => simp [ofDocument?_eq paired]
  | true =>
    cases entry : items[index] with
    | pair first second => simp [groupParts?]
    | _ => simp [entry, Document.isPair] at paired

end Pairs

/-- Entries of all kinds: a bucket named three times, two entries that are no groups, and names that
nobody knows. -/
def mixedGroups : List Document :=
  -- The last entry repeats the bucket of the first one, as the fourth has done before.
  [.text "local", .int 7, .list [.text "global", .text "natural"], .list [.text "local", .null],
    .list [.text "rest"], .text "odd", .text "local"]

/-- The text of an options file that writes its groups as pairs. -/
def pairedText : Text := "groups: !!pairs [local: natural]".toList

/-- The groups of an options file. -/
def groupsValue (document : Document) : Document :=
  (document.entries.get? OptionKey.groups).getD .null

end OptionCheck

end ImportOrder
