import Scratchpad.Proofs.Text.Lines

/-!
# Lines that are put together again

Lines are joined with line feeds between them, or printed with a line feed behind each. What was
joined falls into the same lines again, and what was printed into the same lines without the
carriage return that one of them may end with. Lines without line feeds are told by what was joined
of them.
-/
namespace Scratchpad.Text

/-- A line without the carriage return at its end, if there is one. -/
def unreturned (line : List Char) : List Char := (dropReturn line.reverse).reverse

/-- Lines with a line feed behind each of them. -/
def printed (lines : List (List Char)) : List Char := lines.flatMap (· ++ ['\n'])

/-- Lines with a line feed between any two of them. -/
def joined (lines : List (List Char)) : List Char := ['\n'].intercalate lines

/-- A carriage return at the end of a line is taken away. -/
@[simp]
theorem unreturned_concat (line : List Char) : unreturned (line ++ ['\r']) = line := by
  rw [unreturned, List.reverse_append]
  exact List.reverse_reverse line

/-- A line is kept whole exactly if it does not end with a carriage return. -/
theorem unreturned_eq_self_iff (line : List Char) :
    unreturned line = line ↔ line.getLast? ≠ some '\r' := by
  constructor
  · intro whole returned
    obtain ⟨front, rfl⟩ := List.getLast?_eq_some_iff.mp returned
    rw [unreturned_concat] at whole
    exact absurd (congrArg List.length whole) (by simp)
  · exact dropReturn_of_getLast?

/-- Lines that were printed are found again, without carriage returns at their ends. -/
theorem fallsInto_printed {lines : List (List Char)} (unfed : ∀ line ∈ lines, '\n' ∉ line) :
    FallsInto (printed lines) (lines.map unreturned) := by
  induction lines with
  | nil => exact .nothing
  | cons line lines ih =>
    rw [List.forall_mem_cons] at unfed
    have behind := ih unfed.2
    have split : printed (line :: lines) = line ++ '\n' :: printed lines := by simp [printed]
    rw [split, List.map_cons]
    by_cases returned : line.getLast? = some '\r'
    · obtain ⟨front, rfl⟩ := List.getLast?_eq_some_iff.mp returned
      have unfedFront : '\n' ∉ front := fun found => unfed.1 (List.mem_append_left _ found)
      rw [unreturned_concat, List.append_assoc]
      exact .returned front _ _ unfedFront behind
    · rw [(unreturned_eq_self_iff line).mpr returned]
      exact .fed line _ _ unfed.1 returned behind

/-- A string of printed lines falls into them, as they are read without carriage returns. -/
theorem fallsInto_ofList_printed {lines read : List (List Char)}
    (unfed : ∀ line ∈ lines, '\n' ∉ line) (kept : lines.map unreturned = read) :
    FallsInto (String.ofList (printed lines)).toList read := by
  rw [String.toList_ofList, ← kept]
  exact fallsInto_printed unfed

/-- Lines that all keep their ends are kept as they are. -/
theorem map_unreturned {lines : List (List Char)}
    (kept : ∀ line ∈ lines, line.getLast? ≠ some '\r') : lines.map unreturned = lines := by
  have whole : ∀ line ∈ lines, unreturned line = id line :=
    fun line inside => (unreturned_eq_self_iff line).mpr (kept line inside)
  rw [List.map_congr_left whole, List.map_id]

/-- A single line is joined to nothing. -/
@[simp]
theorem joined_singleton (line : List Char) : joined [line] = line := by
  simp [joined]

/-- A line is joined to others by a line feed. -/
theorem joined_cons (line : List Char) {lines : List (List Char)} (filled : lines ≠ []) :
    joined (line :: lines) = line ++ '\n' :: joined lines := by
  rw [joined, List.intercalate_cons_of_ne_nil filled, List.append_assoc]
  rfl

/-- Lines are joined to others by a line feed behind each of them. -/
theorem joined_append (lines : List (List Char)) {others : List (List Char)}
    (filled : others ≠ []) : joined (lines ++ others) = printed lines ++ joined others := by
  induction lines with
  | nil => rfl
  | cons line lines ih =>
    rw [List.cons_append, joined_cons line (by simp [filled]), ih]
    simp [printed]

/-- A line feed behind lines that were joined makes them printed. -/
theorem joined_feed {lines : List (List Char)} (filled : lines ≠ []) :
    joined lines ++ ['\n'] = printed lines := by
  obtain rfl | ⟨front, last, rfl⟩ := List.eq_nil_or_concat lines
  · exact absurd rfl filled
  · rw [List.concat_eq_append, joined_append front (List.cons_ne_nil last [])]
    simp [joined, printed]

/-- Lines that were joined are found again. -/
theorem fallsInto_joined {before : List (List Char)} {last : List Char} (filled : last ≠ [])
    (unfed : ∀ line ∈ before ++ [last], '\n' ∉ line)
    (kept : ∀ line ∈ before, line.getLast? ≠ some '\r') :
    FallsInto (joined (before ++ [last])) (before ++ [last]) := by
  induction before with
  | nil =>
    rw [List.nil_append, joined_singleton]
    exact .unended last filled (unfed last (by simp))
  | cons line before ih =>
    rw [List.cons_append, List.forall_mem_cons] at unfed
    rw [List.forall_mem_cons] at kept
    rw [List.cons_append, joined_cons line (by simp)]
    exact .fed line _ _ unfed.1 kept.1 (ih unfed.2 kept.2)

/-- A text is joined of its stretches between line feeds. -/
theorem joined_splitOn (text : List Char) : joined (text.splitOn '\n') = text :=
  List.intercalate_splitOn '\n'

/-- What a text is joined of holds no line feeds, and nothing but characters of the text. -/
theorem mem_splitOn (text : List Char) :
    ∀ line ∈ text.splitOn '\n', '\n' ∉ line ∧ line ⊆ text := by
  induction text with
  | nil => simp [List.splitOn_nil]
  | cons c text ih =>
    rw [List.splitOn_cons_eq_if_modifyHead]
    by_cases feed : c = '\n'
    · rw [if_pos (beq_iff_eq.mpr feed)]
      refine List.forall_mem_cons.mpr ⟨by simp, fun line inside => ?_⟩
      exact ⟨(ih line inside).1, List.subset_cons_of_subset c (ih line inside).2⟩
    · rw [if_neg (by simpa using feed)]
      cases split : text.splitOn '\n' with
      | nil => nofun
      | cons first others =>
        rw [split, List.forall_mem_cons] at ih
        refine List.forall_mem_cons.mpr
          ⟨⟨?_, List.cons_subset_cons c ih.1.2⟩, fun line inside => ?_⟩
        · exact List.not_mem_cons_of_ne_of_not_mem (Ne.symm feed) ih.1.1
        · exact ⟨(ih.2 line inside).1, List.subset_cons_of_subset c (ih.2 line inside).2⟩

/-- Different lines without line feeds are never joined to the same text. -/
theorem joined_inj {left right : List (List Char)} (unfedLeft : ∀ line ∈ left, '\n' ∉ line)
    (unfedRight : ∀ line ∈ right, '\n' ∉ line) (filledLeft : left ≠ []) (filledRight : right ≠ [])
    (same : joined left = joined right) : left = right := by
  have split := congrArg (List.splitOn '\n') same
  rwa [joined, joined, List.splitOn_intercalate '\n' unfedLeft filledLeft,
    List.splitOn_intercalate '\n' unfedRight filledRight] at split

/-- The characters of lines that are joined as strings. -/
theorem toList_joinLines (lines : List (List Char)) :
    (joinLines (lines.map String.ofList)).toList = joined lines := by
  rw [joinLines, String.toList_intercalate, List.map_map]
  simp [joined, Function.comp_def]

/-- Lines hold no line feeds. -/
theorem FallsInto.unfed {text : List Char} {lines : List (List Char)}
    (falls : FallsInto text lines) : ∀ line ∈ lines, '\n' ∉ line := by
  induction falls with
  | nothing => nofun
  | unended line _ unfed => simpa using unfed
  | fed line rest lines unfed _ _ ih => exact List.forall_mem_cons.mpr ⟨unfed, ih⟩
  | returned line rest lines unfed _ ih => exact List.forall_mem_cons.mpr ⟨unfed, ih⟩

/-- Lines hold nothing but characters of the text. -/
theorem FallsInto.subset {text : List Char} {lines : List (List Char)}
    (falls : FallsInto text lines) : ∀ line ∈ lines, line ⊆ text := by
  induction falls with
  | nothing => nofun
  | unended line _ _ => simp
  | fed line rest lines _ _ _ ih =>
    refine List.forall_mem_cons.mpr ⟨List.subset_append_left .., fun other inside c found => ?_⟩
    exact List.mem_append_right line (List.mem_cons_of_mem _ (ih other inside found))
  | returned line rest lines _ _ ih =>
    refine List.forall_mem_cons.mpr ⟨List.subset_append_left .., fun other inside c found => ?_⟩
    exact List.mem_append_right line
      (List.mem_cons_of_mem _ (List.mem_cons_of_mem _ (ih other inside found)))

end Scratchpad.Text
