import Mathlib.Data.List.DropRight
import EditGuard.Proofs.Splitting
import EditGuard.Text.Lines

/-!
# The line around a place

A text is cut into lines by counting line feeds: as many lines end before a place as there are
line feeds before it, and the next line is made of what stands around the place up to the
nearest line feeds.
-/

namespace EditGuard.Text

/-! ## Pieces -/

section Pieces

variable {mark : Char}

theorem pieces_ne_nil (cs : List Char) : pieces mark cs ≠ [] := by
  cases cs with
  | nil => exact List.cons_ne_nil _ _
  | cons c cs =>
      rw [pieces]
      split
      · exact List.cons_ne_nil _ _
      · split <;> exact List.cons_ne_nil _ _

theorem pieces_cons_mark (cs : List Char) : pieces mark (mark :: cs) = [] :: pieces mark cs := by
  rw [pieces, if_pos rfl]

theorem pieces_cons {c : Char} (other : c ≠ mark) {cs piece : List Char}
    {more : List (List Char)} (cut : pieces mark cs = piece :: more) :
    pieces mark (c :: cs) = (c :: piece) :: more := by
  rw [pieces, if_neg other, cut]

/-- Before a mark and after it a text is cut by itself. -/
theorem pieces_append_mark (before after : List Char) :
    pieces mark (before ++ mark :: after) = pieces mark before ++ pieces mark after := by
  induction before with
  | nil => exact pieces_cons_mark after
  | cons c before ih =>
      rw [List.cons_append]
      by_cases same : c = mark
      · rw [same, pieces_cons_mark, pieces_cons_mark, ih, List.cons_append]
      · obtain ⟨piece, more, cut⟩ := List.exists_cons_of_ne_nil (@pieces_ne_nil mark before)
        rw [cut, List.cons_append] at ih
        rw [pieces_cons same cut, pieces_cons same ih, List.cons_append]

/-- Without a mark there is one piece. -/
theorem pieces_of_not_mem {cs : List Char} (unmarked : mark ∉ cs) : pieces mark cs = [cs] := by
  induction cs with
  | nil => rfl
  | cons c cs ih =>
      rw [List.mem_cons, not_or] at unmarked
      exact pieces_cons (Ne.symm unmarked.1) (ih unmarked.2)

end Pieces

/-- A piece holds no mark. -/
theorem not_mem_of_mem_pieces {cs piece : List Char} (mem : piece ∈ pieces mark cs) :
    mark ∉ piece := by
  induction cs generalizing piece with
  | nil =>
      rw [pieces, List.mem_singleton] at mem
      rw [mem]
      exact List.not_mem_nil
  | cons c cs ih =>
      by_cases same : c = mark
      · rw [same, pieces_cons_mark, List.mem_cons] at mem
        rcases mem with rfl | mem
        · exact List.not_mem_nil
        · exact ih mem
      · obtain ⟨first, more, cut⟩ := List.exists_cons_of_ne_nil (@pieces_ne_nil mark cs)
        rw [pieces_cons same cut, List.mem_cons] at mem
        rcases mem with rfl | mem
        · rw [List.mem_cons, not_or]
          exact ⟨Ne.symm same, ih (by rw [cut]; exact List.mem_cons_self)⟩
        · exact ih (by rw [cut]; exact List.mem_cons_of_mem _ mem)

/-- Rows with a mark after each one are the pieces, before an empty one. -/
theorem pieces_rows {rows : List (List Char)} (unmarked : ∀ row ∈ rows, mark ∉ row) :
    pieces mark (rows.flatMap (· ++ [mark])) = rows ++ [[]] := by
  induction rows with
  | nil => rfl
  | cons row rows ih =>
      rw [List.forall_mem_cons] at unmarked
      rw [List.flatMap_cons, List.append_assoc, List.singleton_append, pieces_append_mark,
        pieces_of_not_mem unmarked.1, ih unmarked.2]
      rfl

/-! ## Lines -/

/-- What stands before a place in its line. -/
def lead (before : List Char) : List Char :=
  before.rtakeWhile (· ≠ '\n')

/-- The line around a place, without the line break that ends it. -/
def lineAround (before after : List Char) : List Char :=
  let line := lead before ++ after.takeWhile (· ≠ '\n')
  if '\n' ∈ after then trimReturn line else line

theorem lead_feed (before : List Char) : lead (before ++ ['\n']) = [] :=
  List.rtakeWhile_concat_neg _ _ _ (by decide)

theorem lead_concat {c : Char} (other : c ≠ '\n') (before : List Char) :
    lead (before ++ [c]) = lead before ++ [c] :=
  List.rtakeWhile_concat_pos _ _ _ (by simpa using other)

theorem not_mem_lead (before : List Char) : '\n' ∉ lead before := by
  intro mem
  simpa using List.mem_rtakeWhile_imp mem

theorem linesOf_of_not_mem {cs : List Char} (unbroken : '\n' ∉ cs) : linesOf cs = [cs] := by
  rw [linesOf, pieces_of_not_mem unbroken]
  rfl

/-- A line ends at the first line feed. -/
theorem linesOf_append_feed {line : List Char} (unbroken : '\n' ∉ line) (cs : List Char) :
    linesOf (line ++ '\n' :: cs) = trimReturn line :: linesOf cs := by
  rw [linesOf, pieces_append_mark, pieces_of_not_mem unbroken, linesOf]
  rw [List.dropLast_append_of_ne_nil (pieces_ne_nil cs),
    List.getLast?_append_of_ne_nil _ (pieces_ne_nil cs)]
  rfl

/-- The lines from a place on, when the line feeds before it have been counted. -/
theorem drop_linesOf (before after : List Char) :
    (linesOf (before ++ after)).drop (before.count '\n') = linesOf (lead before ++ after) := by
  induction before using List.reverseRecOn generalizing after with
  | nil => rfl
  | append_singleton before c ih =>
      rw [List.append_assoc, List.singleton_append, List.count_append]
      by_cases feed : c = '\n'
      · rw [feed, lead_feed, List.count_singleton_self, ← List.drop_drop, ih,
          linesOf_append_feed (not_mem_lead before)]
        rfl
      · rw [lead_concat feed, List.count_singleton, if_neg (by simpa using feed), Nat.add_zero,
          ih, List.append_assoc, List.singleton_append]

theorem takeWhile_of_not_mem {cs : List Char} (unbroken : '\n' ∉ cs) :
    cs.takeWhile (· ≠ '\n') = cs := by
  rw [List.takeWhile_eq_self_iff]
  intro c mem
  exact decide_eq_true fun feed => unbroken (feed ▸ mem)

/-- The first line of what begins at the beginning of a line. -/
theorem getElem?_zero_linesOf {start : List Char} (unbroken : '\n' ∉ start) (after : List Char) :
    (linesOf (start ++ after))[0]? =
      some (if '\n' ∈ after then trimReturn (start ++ after.takeWhile (· ≠ '\n'))
        else start ++ after.takeWhile (· ≠ '\n')) := by
  split
  · next breaks =>
      obtain ⟨line, rest, rfl, unbrokenLine⟩ := List.eq_append_cons_of_mem breaks
      have stops : (line ++ '\n' :: rest).takeWhile (· ≠ '\n') = line :=
        (takeWhile_append_eq (List.takeWhile_eq_self_iff.mp (takeWhile_of_not_mem unbrokenLine))
          (by rintro _ ⟨⟩; rfl)).1
      have unbrokenBoth : '\n' ∉ start ++ line := by
        rw [List.mem_append, not_or]
        exact ⟨unbroken, unbrokenLine⟩
      rw [stops, ← List.append_assoc, linesOf_append_feed unbrokenBoth]
      rfl
  · next unbrokenRest =>
      have unbrokenBoth : '\n' ∉ start ++ after := by
        rw [List.mem_append, not_or]
        exact ⟨unbroken, unbrokenRest⟩
      rw [takeWhile_of_not_mem unbrokenRest, linesOf_of_not_mem unbrokenBoth]
      rfl

/-- As many lines end before a place as there are line feeds before it, and then comes the
line around the place. -/
theorem getElem?_linesOf (before after : List Char) :
    (linesOf (before ++ after))[before.count '\n']? = some (lineAround before after) := by
  have first := getElem?_zero_linesOf (not_mem_lead before) after
  rw [← drop_linesOf, List.getElem?_drop] at first
  exact first

/-- A carriage return is dropped from the end of a text. -/
theorem prefix_trimReturn {start rest : List Char} (goesOn : rest ≠ []) :
    start <+: trimReturn (start ++ rest) := by
  unfold trimReturn
  split
  · rw [List.dropLast_append_of_ne_nil goesOn]
    exact List.prefix_append _ _
  · exact List.prefix_append _ _

/-- The line around a place that is not at a line feed goes on from what stands before the
place. -/
theorem prefix_lineAround (before : List Char) {after : List Char}
    (inside : after.head? ≠ some '\n') : lead before <+: lineAround before after := by
  unfold lineAround
  dsimp only
  split
  · next breaks =>
      apply prefix_trimReturn
      cases after with
      | nil => cases breaks
      | cons c after =>
          have other : c ≠ '\n' := fun same => inside (congrArg some same)
          rw [List.takeWhile_cons_of_pos (by simpa using other)]
          exact List.cons_ne_nil _ _
  · exact List.prefix_append _ _

/-! ## Rows that end -/

section Rows

variable {rows : List (List Char)}

theorem not_mem_of_mem_feedLines {cs line : List Char} (mem : line ∈ feedLines cs) :
    '\n' ∉ line := by
  unfold feedLines at mem
  dsimp only at mem
  split at mem
  · exact not_mem_of_mem_pieces (List.dropLast_subset _ mem)
  · exact not_mem_of_mem_pieces mem

/-- Rows that end at line feeds are the lines between line feeds. -/
theorem feedLines_rows (unbroken : ∀ row ∈ rows, '\n' ∉ row) :
    feedLines (rows.flatMap (· ++ ['\n'])) = rows := by
  simp only [feedLines, pieces_rows unbroken, List.getLast?_concat, List.dropLast_concat, if_true]

/-- Rows that end at line feeds are lines without the carriage returns at their ends. -/
theorem endedLines_rows (unbroken : ∀ row ∈ rows, '\n' ∉ row) :
    endedLines (rows.flatMap (· ++ ['\n'])) = rows.map trimReturn := by
  simp only [endedLines, linesOf, pieces_rows unbroken, List.getLast?_concat,
    List.dropLast_concat, Option.toList_some, if_true]

end Rows

end EditGuard.Text
