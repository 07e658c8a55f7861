import EditGuard.Proofs.Difference.Patch
import EditGuard.Proofs.Variable.Valuation

/-!
# Sides of a difference

The lines that one side of a difference has can be found again in its text.  A row of a hunk is
either a header or begins with the mark of a changed line, so that what lines contain does not
matter, except at their ends: lines of the two texts end at line feeds alone, but the rows of
the difference also end at a carriage return before a line feed, and a line that ends in a
carriage return is found without it.
-/

namespace EditGuard.Difference

/-! ## Marks -/

/-- The line of a change that has this mark. -/
def onSide (mark : Char) : Change String → Option String
  | .keep _ => none
  | .remove line => if mark = '-' then some line else none
  | .add line => if mark = '+' then some line else none

theorem onSide_minus : onSide '-' = Change.removed? := by
  funext c
  cases c <;> rfl

theorem onSide_plus : onSide '+' = Change.added? := by
  funext c
  cases c <;> rfl

/-- A row of a difference without the mark, unless it is a header or has another mark. -/
def unmarked? (mark : Char) : List Char → Option String
  | '@' :: '@' :: _ => none
  | c :: rest => if c = mark then some (String.ofList rest) else none
  | [] => none

theorem markedLines_eq (mark : Char) (difference : String) :
    markedLines mark difference =
      (Text.endedLines difference.toList).filterMap (unmarked? mark) :=
  rfl

/-- A line without the carriage return at its end. -/
def withoutReturn (line : String) : String :=
  String.ofList (Text.trimReturn line.toList)

theorem trimReturn_cons {c : Char} (other : c ≠ '\r') (cs : List Char) :
    Text.trimReturn (c :: cs) = c :: Text.trimReturn cs := by
  cases cs with
  | nil => simp [Text.trimReturn, other]
  | cons d cs =>
      simp only [Text.trimReturn, List.getLast?_cons_cons]
      split <;> rfl

theorem trimReturn_eq_self_iff (cs : List Char) :
    Text.trimReturn cs = cs ↔ cs.getLast? ≠ some '\r' := by
  unfold Text.trimReturn
  split
  · next ends =>
      have nonempty : 0 < cs.length := List.length_pos_of_mem (List.mem_of_getLast? ends)
      refine iff_of_false (fun same => ?_) (not_not_intro ends)
      have shorter := congrArg List.length same
      rw [List.length_dropLast] at shorter
      omega
  · next ends => exact iff_of_true rfl ends

theorem withoutReturn_eq_self_iff (line : String) :
    withoutReturn line = line ↔ line.toList.getLast? ≠ some '\r' := by
  rw [← trimReturn_eq_self_iff, withoutReturn, ← String.toList_inj, String.toList_ofList]

/-- The line that is found in a row of a difference. -/
def found? (mark : Char) (row : String) : Option String :=
  unmarked? mark (Text.trimReturn row.toList)

theorem found?_header (mark : Char) (h : Hunk) : found? mark h.header = none := by
  obtain ⟨rest, start⟩ : ∃ rest, h.header.toList = '@' :: '@' :: rest := by
    simp only [Hunk.header, String.toList_append, List.append_assoc]
    exact ⟨_, rfl⟩
  rw [found?, start, trimReturn_cons (by decide), trimReturn_cons (by decide)]
  rfl

/-- A changed line is found by its mark. -/
theorem marked?_bind_found? (mark : Char) (c : Change String) :
    (Hunk.marked? c).bind (found? mark) = (onSide mark c).map withoutReturn := by
  cases c with
  | keep line => rfl
  | remove line =>
      have row : ("-" ++ line).toList = '-' :: line.toList := String.toList_append
      rw [Hunk.marked?, Option.bind_some, found?, row, trimReturn_cons (by decide)]
      by_cases same : mark = '-'
      · simp [unmarked?, onSide, same, withoutReturn]
      · simp [unmarked?, onSide, same, Ne.symm same]
  | add line =>
      have row : ("+" ++ line).toList = '+' :: line.toList := String.toList_append
      rw [Hunk.marked?, Option.bind_some, found?, row, trimReturn_cons (by decide)]
      by_cases same : mark = '+'
      · simp [unmarked?, onSide, same, withoutReturn]
      · simp [unmarked?, onSide, same, Ne.symm same]

/-! ## The changes of hunks -/

/-- Hunks have all changes and keep nothing. -/
theorem hunksFrom_changes (cs run : List (Change String)) (oldLine newLine : Nat) :
    (hunksFrom oldLine newLine run cs).flatMap Hunk.changes =
      run.reverse ++ cs.filter (!·.isKeep) := by
  have close (oldLine newLine : Nat) (run : List (Change String)) :
      (hunksFrom.close oldLine newLine run).flatMap Hunk.changes = run.reverse := by
    unfold hunksFrom.close
    split
    · next empty =>
        obtain rfl := List.isEmpty_iff.mp empty
        rfl
    · exact List.flatMap_singleton _ _
  induction cs generalizing run oldLine newLine with
  | nil => rw [hunksFrom, close, List.filter_nil, List.append_nil]
  | cons c cs ih =>
      rw [hunksFrom]
      split
      · next kept =>
          rw [List.flatMap_append, close, ih, List.filter_cons_of_neg (by simp [kept])]
          rfl
      · next changed =>
          rw [ih, List.filter_cons_of_pos (by simp [changed]), List.reverse_cons,
            List.append_assoc]
          rfl

theorem filterMap_onSide_hunks (mark : Char) (cs : List (Change String)) :
    (hunks cs).flatMap (fun h => h.changes.filterMap (onSide mark)) =
      cs.filterMap (onSide mark) := by
  rw [← List.filterMap_flatMap, hunks, hunksFrom_changes, List.reverse_nil, List.nil_append,
    List.filterMap_filter]
  congr 1
  funext c
  cases c <;> rfl

theorem filterMap_found?_rows (mark : Char) (h : Hunk) :
    h.rows.filterMap (found? mark) = (h.changes.filterMap (onSide mark)).map withoutReturn := by
  rw [Hunk.rows, List.filterMap_cons_none (found?_header mark h), List.filterMap_filterMap,
    List.map_filterMap]
  exact congrArg (List.filterMap · h.changes) (funext fun c => marked?_bind_found? mark c)

/-- The lines with a mark in a difference of two texts are those of the changes with this mark,
in order, without the carriage returns at their ends. -/
theorem markedLines_ofTexts (mark : Char) (old new : String) :
    markedLines mark (ofTexts old new) =
      ((changes (linesIn old) (linesIn new)).filterMap (onSide mark)).map withoutReturn := by
  have unbroken : ∀ row ∈ ((hunksOf old new).flatMap Hunk.rows).map String.toList, '\n' ∉ row := by
    rw [List.forall_mem_map]
    exact fun _ => rows_unbroken
  rw [markedLines_eq, toList_ofTexts, Text.endedLines_rows unbroken, List.map_map,
    List.filterMap_map]
  calc ((hunksOf old new).flatMap Hunk.rows).filterMap (found? mark)
    _ = (hunksOf old new).flatMap fun h =>
          (h.changes.filterMap (onSide mark)).map withoutReturn := by
        simp only [List.filterMap_flatMap, filterMap_found?_rows]
    _ = _ := by
        rw [← List.map_flatMap, hunksOf, filterMap_onSide_hunks]

/-! ## The computed sides -/

section Computation

open Variable (Intrinsic ReadMode Script readParam)

variable {read : String → ReadMode → Except Fault Value}

theorem eval_readParam {params : List Value} {i : Nat} {name : String} {v : Value}
    {next : Value → Script} (named : params[i]? = some (.text name))
    (isRead : read name .lax = .ok v) :
    (readParam params i next).eval read = (next v).eval read := by
  unfold readParam
  rw [named]
  simp only [Script.eval, isRead]

theorem map_withoutReturn_eq_self_iff (lines : List String) :
    lines.map withoutReturn = lines ↔ ∀ line ∈ lines, line.toList.getLast? ≠ some '\r' := by
  have same : lines.map withoutReturn = lines.map id ↔
      ∀ line ∈ lines, withoutReturn line = line := List.map_inj_left
  rw [List.map_id] at same
  exact same.trans (forall₂_congr fun line _ => withoutReturn_eq_self_iff line)

theorem removed_sublist (cs : List (Change String)) :
    (cs.filterMap Change.removed?).Sublist (cs.filterMap Change.old?) := by
  refine filterMap_sublist_filterMap (fun c line isRemoved => ?_) cs
  cases c with
  | remove => exact isRemoved
  | keep | add => contradiction

theorem added_sublist (cs : List (Change String)) :
    (cs.filterMap Change.added?).Sublist (cs.filterMap Change.new?) := by
  refine filterMap_sublist_filterMap (fun c line isAdded => ?_) cs
  cases c with
  | add => exact isAdded
  | keep | remove => contradiction

/-- The sides of a computed difference are the lines that were added to the one text and those
that were removed from the other, all of them and in order, without the carriage returns at
their ends. -/
theorem eval_differenceSide {d o n : String} {old new : Value}
    (oldRead : read o .lax = .ok old) (newRead : read n .lax = .ok new)
    (differenceRead :
      read d .lax = (Intrinsic.difference.script [.text o, .text n]).eval read) :
    ∃ added removed : List String,
      (changes (linesIn old.toText) (linesIn new.toText)).filterMap Change.added? = added ∧
      (changes (linesIn old.toText) (linesIn new.toText)).filterMap Change.removed? = removed ∧
      added.Sublist (linesIn new.toText) ∧ removed.Sublist (linesIn old.toText) ∧
      (Intrinsic.differenceSide.script [.text d, .text "added"]).eval read =
        .ok (.ofTexts (added.map withoutReturn)) ∧
      (Intrinsic.differenceSide.script [.text d, .text "removed"]).eval read =
        .ok (.ofTexts (removed.map withoutReturn)) ∧
      (added.map withoutReturn = added ↔
        ∀ line ∈ added, line.toList.getLast? ≠ some '\r') ∧
      (removed.map withoutReturn = removed ↔
        ∀ line ∈ removed, line.toList.getLast? ≠ some '\r') := by
  have turns := (compares_changes (linesIn old.toText) (linesIn new.toText)).turns
  have addedIn := added_sublist (changes (linesIn old.toText) (linesIn new.toText))
  have removedIn := removed_sublist (changes (linesIn old.toText) (linesIn new.toText))
  rw [turns.new_eq] at addedIn
  rw [turns.old_eq] at removedIn
  have computed : read d .lax = .ok (.text (ofTexts old.toText new.toText)) := by
    rw [differenceRead, Intrinsic.script, eval_readParam rfl oldRead, eval_readParam rfl newRead]
    rfl
  refine ⟨_, _, rfl, rfl, addedIn, removedIn, ?_, ?_, map_withoutReturn_eq_self_iff _,
    map_withoutReturn_eq_self_iff _⟩
  · rw [← onSide_plus, ← markedLines_ofTexts, Intrinsic.script, eval_readParam rfl computed]
    rfl
  · rw [← onSide_minus, ← markedLines_ofTexts, Intrinsic.script, eval_readParam rfl computed]
    rfl

/-- What variables are if one holds the difference of two others. -/
def comparing (old new : String) (name : String) (_ : ReadMode) : Except Fault Value :=
  if name = "old" then .ok (.text old)
  else if name = "new" then .ok (.text new)
  else .ok (.text (ofTexts old new))

theorem changes_of_empty {new line : String} (single : linesIn new = [line]) :
    changes (linesIn "") (linesIn new) = [.add line] := by
  have turns := (compares_changes (linesIn "") (linesIn new)).turns
  rw [single] at turns ⊢
  exact turns.eq_add

theorem eval_differenceSide_headerLike :
    comparing "" "@@ -1 @@\n" "old" .lax = .ok (.text "") ∧
      comparing "" "@@ -1 @@\n" "new" .lax = .ok (.text "@@ -1 @@\n") ∧
      comparing "" "@@ -1 @@\n" "difference" .lax =
        (Intrinsic.difference.script [.text "old", .text "new"]).eval
          (comparing "" "@@ -1 @@\n") ∧
      (Intrinsic.differenceSide.script [.text "difference", .text "added"]).eval
        (comparing "" "@@ -1 @@\n") = .ok (.ofTexts ["@@ -1 @@"]) := by
  have oldRead : comparing "" "@@ -1 @@\n" "old" .lax = .ok (.text "") := rfl
  have newRead : comparing "" "@@ -1 @@\n" "new" .lax = .ok (.text "@@ -1 @@\n") := rfl
  have differenceRead : comparing "" "@@ -1 @@\n" "difference" .lax =
      (Intrinsic.difference.script [.text "old", .text "new"]).eval
        (comparing "" "@@ -1 @@\n") := rfl
  obtain ⟨added, removed, isAdded, -, -, -, side, -⟩ :=
    eval_differenceSide oldRead newRead differenceRead
  have single : linesIn "@@ -1 @@\n" = ["@@ -1 @@"] := by decide
  obtain rfl : added = ["@@ -1 @@"] := isAdded.symm.trans (by
    rw [show (Value.text "").toText = "" from rfl,
      show (Value.text "@@ -1 @@\n").toText = "@@ -1 @@\n" from rfl, changes_of_empty single]
    rfl)
  exact ⟨oldRead, newRead, differenceRead, side⟩

/-- A line that ends in a carriage return is found without it. -/
theorem eval_differenceSide_carriageReturn :
    comparing "" "x\r\n" "difference" .lax =
        (Intrinsic.difference.script [.text "old", .text "new"]).eval (comparing "" "x\r\n") ∧
      (Intrinsic.lines.script [.text "new"]).eval (comparing "" "x\r\n") =
        .ok (.ofTexts ["x\r"]) ∧
      (changes (linesIn "") (linesIn "x\r\n")).filterMap Change.added? = ["x\r"] ∧
      (Intrinsic.differenceSide.script [.text "difference", .text "added"]).eval
        (comparing "" "x\r\n") = .ok (.ofTexts ["x"]) ∧
      (Intrinsic.differenceSide.script [.text "difference", .text "added"]).eval
        (comparing "" "x\r\n") ≠
          .ok (.ofTexts ((changes (linesIn "") (linesIn "x\r\n")).filterMap Change.added?)) := by
  have single : linesIn "x\r\n" = ["x\r"] := by decide
  have added : (changes (linesIn "") (linesIn "x\r\n")).filterMap Change.added? = ["x\r"] := by
    rw [changes_of_empty single]
    rfl
  have side : (Intrinsic.differenceSide.script [.text "difference", .text "added"]).eval
      (comparing "" "x\r\n") = .ok (.ofTexts ["x"]) := by
    have computed : comparing "" "x\r\n" "difference" .lax = .ok (.text (ofTexts "" "x\r\n")) :=
      rfl
    rw [Intrinsic.script, eval_readParam rfl computed]
    have marked := markedLines_ofTexts '+' "" "x\r\n"
    have trimmed : ["x\r"].map withoutReturn = ["x"] := by decide
    rw [onSide_plus, added, trimmed] at marked
    exact congrArg (fun lines => Except.ok (Value.ofTexts lines)) marked
  refine ⟨rfl, rfl, added, side, ?_⟩
  rw [side, added]
  simp [Value.ofTexts]

end Computation

end EditGuard.Difference
