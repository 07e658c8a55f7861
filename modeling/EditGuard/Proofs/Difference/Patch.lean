import EditGuard.Difference.Hunk
import EditGuard.Proofs.Difference.Minimality
import EditGuard.Proofs.Text.Lines

/-!
# Differences as patches

The hunks of a comparison are a patch: copying the lines between them and putting in what they
add for what they remove turns the old lines into the new ones.  That hunks are a patch from
certain line numbers on is written down apart from how they are made, and everything about
them, where their lines are, how far they are apart and what replaying them gives, is read off
from there.
-/

namespace EditGuard.Difference

/-! ## Patches -/

/-- Hunks that turn lines into others, of which the first have these numbers.  Lines are copied
before each hunk and after the last one, and there are some between two hunks. -/
inductive Patch : Nat → Nat → List String → List String → List Hunk → Prop
  | copied {oldLine newLine : Nat} (lines : List String) : Patch oldLine newLine lines lines []
  | changed {oldLine newLine : Nat} (lines : List String) {oldRest newRest : List String}
      {h : Hunk} {hs : List Hunk}
      (atOld : h.oldLine = oldLine + lines.length) (atNew : h.newLine = newLine + lines.length)
      (unkept : ∀ c ∈ h.changes, c.isKeep = false) (some : h.changes ≠ [])
      (apart : ∀ next ∈ hs.head?, h.oldLine + h.removed.length < next.oldLine)
      (rest : Patch (h.oldLine + h.removed.length) (h.newLine + h.added.length) oldRest newRest
        hs) :
      Patch oldLine newLine (lines ++ (h.removed ++ oldRest)) (lines ++ (h.added ++ newRest))
        (h :: hs)

namespace Patch

variable {oldLine newLine : Nat} {old new : List String} {hs : List Hunk}

theorem le_of_head (patch : Patch oldLine newLine old new hs) :
    ∀ h ∈ hs.head?, oldLine ≤ h.oldLine := by
  cases patch with
  | copied lines => nofun
  | changed lines atOld =>
      rintro _ ⟨⟩
      omega

/-- One more line is copied before the first hunk. -/
theorem copy (line : String) (patch : Patch (oldLine + 1) (newLine + 1) old new hs) :
    Patch oldLine newLine (line :: old) (line :: new) hs := by
  cases patch with
  | copied => exact .copied (line :: old)
  | changed lines atOld atNew unkept some apart rest =>
      refine .changed (line :: lines) ?_ ?_ unkept some apart rest
      · rw [atOld, List.length_cons]
        omega
      · rw [atNew, List.length_cons]
        omega

/-- A run of changes is a hunk before what comes after it. -/
theorem close {run : List (Change String)} (unkept : ∀ c ∈ run, c.isKeep = false)
    (apart : ∀ next ∈ hs.head?, hunksFrom.oldAfter oldLine newLine run < next.oldLine)
    (rest : Patch (hunksFrom.oldAfter oldLine newLine run) (hunksFrom.newAfter oldLine newLine run)
      old new hs) :
    Patch oldLine newLine (run.reverse.filterMap Change.removed? ++ old)
      (run.reverse.filterMap Change.added? ++ new)
      (hunksFrom.close oldLine newLine run ++ hs) := by
  unfold hunksFrom.close
  split
  · next empty =>
      obtain rfl := List.isEmpty_iff.mp empty
      exact rest
  · next nonempty =>
      refine .changed (h := hunksFrom.hunk oldLine newLine run) [] rfl rfl ?_ ?_ apart rest
      · intro c mem
        exact unkept c (List.mem_reverse.mp mem)
      · intro none
        exact nonempty (List.isEmpty_iff.mpr (List.reverse_eq_nil_iff.mp none))

/-- The hunks of changes are a patch, whatever changes have been seen of the first run. -/
theorem patch_hunksFrom {run : List (Change String)} (unkept : ∀ c ∈ run, c.isKeep = false)
    (cs : List (Change String)) (oldLine newLine : Nat) :
    Patch oldLine newLine (run.reverse.filterMap Change.removed? ++ cs.filterMap Change.old?)
      (run.reverse.filterMap Change.added? ++ cs.filterMap Change.new?)
      (hunksFrom oldLine newLine run cs) := by
  induction cs generalizing run oldLine newLine with
  | nil =>
      have closed : Patch oldLine newLine _ _ (hunksFrom.close oldLine newLine run ++ []) :=
        .close unkept nofun (.copied [])
      rwa [List.append_nil (hunksFrom.close oldLine newLine run)] at closed
  | cons c cs ih =>
      rw [hunksFrom]
      cases c with
      | keep line =>
          -- The run ends here, and the line after it is copied.
          have rest := @ih [] nofun (hunksFrom.oldAfter oldLine newLine run + 1)
            (hunksFrom.newAfter oldLine newLine run + 1)
          exact .close unkept rest.le_of_head (rest.copy line)
      | remove line =>
          have more := @ih (.remove line :: run) (List.forall_mem_cons.mpr ⟨rfl, unkept⟩)
            oldLine newLine
          rw [List.reverse_cons, List.filterMap_append, List.filterMap_append,
            List.append_assoc, List.append_assoc] at more
          exact more
      | add line =>
          have more := @ih (.add line :: run) (List.forall_mem_cons.mpr ⟨rfl, unkept⟩)
            oldLine newLine
          rw [List.reverse_cons, List.filterMap_append, List.filterMap_append,
            List.append_assoc, List.append_assoc] at more
          exact more

theorem patch_hunks (cs : List (Change String)) :
    Patch 1 1 (cs.filterMap Change.old?) (cs.filterMap Change.new?) (hunks cs) :=
  @patch_hunksFrom [] nofun cs 1 1

example : hunks [.keep "a", .remove "b", .add "c", .keep "d", .add "e"] =
    [⟨2, 2, [.remove "b", .add "c"]⟩, ⟨4, 4, [.add "e"]⟩] := by decide

end Patch

/-! ## Where hunks are -/

/-- The lines of a hunk are those of both texts from its line numbers on, and it has some. -/
structure Hunk.Located (old new : List String) (h : Hunk) : Prop where
  some : 1 ≤ h.removed.length + h.added.length
  oldLine_pos : 1 ≤ h.oldLine
  newLine_pos : 1 ≤ h.newLine
  removed_eq : (old.drop (h.oldLine - 1)).take h.removed.length = h.removed
  added_eq : (new.drop (h.newLine - 1)).take h.added.length = h.added

/-- There are lines between two hunks, as many in the one text as in the other. -/
def Hunk.Apart (h next : Hunk) : Prop :=
  ∃ between, 1 ≤ between ∧ next.oldLine = h.oldLine + h.removed.length + between ∧
    next.newLine = h.newLine + h.added.length + between

theorem length_changed {cs : List (Change String)} (unkept : ∀ c ∈ cs, c.isKeep = false) :
    (cs.filterMap Change.removed?).length + (cs.filterMap Change.added?).length = cs.length := by
  induction cs with
  | nil => rfl
  | cons c cs ih =>
      rw [List.forall_mem_cons] at unkept
      have total := ih unkept.2
      cases c with
      | keep line => cases unkept.1
      | remove line | add line =>
          simp only [List.filterMap_cons, Change.removed?, Change.added?, List.length_cons]
          omega

namespace Patch

variable {oldLine newLine : Nat} {old new : List String} {hs : List Hunk}

/-- The lines of a patch are where its hunks say, also among more lines before. -/
theorem located (oldBefore newBefore : List String)
    (patch : Patch (oldBefore.length + 1) (newBefore.length + 1) old new hs) :
    ∀ h ∈ hs, h.Located (oldBefore ++ old) (newBefore ++ new) := by
  generalize oldAt : oldBefore.length + 1 = oldLine at patch
  generalize newAt : newBefore.length + 1 = newLine at patch
  induction patch generalizing oldBefore newBefore with
  | copied => nofun
  | @changed oldLine newLine lines oldRest newRest h hs atOld atNew unkept some apart rest ih =>
      rw [List.forall_mem_cons]
      constructor
      · refine ⟨?_, by omega, by omega, ?_, ?_⟩
        · rw [Hunk.removed, Hunk.added, length_changed unkept]
          exact List.length_pos_iff.mpr some
        · rw [← List.append_assoc, List.drop_left' (by rw [List.length_append]; omega),
            List.take_left]
        · rw [← List.append_assoc, List.drop_left' (by rw [List.length_append]; omega),
            List.take_left]
      · have further := ih (oldBefore ++ (lines ++ h.removed)) (newBefore ++ (lines ++ h.added))
          (by simp only [List.length_append]; omega) (by simp only [List.length_append]; omega)
        simpa only [List.append_assoc] using further

theorem isChain (patch : Patch oldLine newLine old new hs) : hs.IsChain Hunk.Apart := by
  induction patch with
  | copied => exact .nil
  | changed lines atOld atNew unkept some apart rest ih =>
      refine List.isChain_cons.mpr ⟨fun next isNext => ?_, ih⟩
      have further := apart next isNext
      cases rest with
      | copied => contradiction
      | changed between atOldNext atNewNext =>
          obtain rfl := Option.some.inj isNext
          exact ⟨between.length, by omega, by omega, by omega⟩

end Patch

/-! ## Replaying -/

/-- What hunks make of lines of which the first has this number, copying those between the
hunks.  There is nothing if a hunk does not fit. -/
def replay : List Hunk → Nat → List String → Option (List String)
  | [], _, lines => some lines
  | h :: hs, line, lines =>
      let copied := h.oldLine - line
      if line ≤ h.oldLine ∧ copied ≤ lines.length ∧ h.removed <+: lines.drop copied then
        (replay hs (h.oldLine + h.removed.length) (lines.drop (copied + h.removed.length))).map
          fun rest => lines.take copied ++ (h.added ++ rest)
      else none

/-- Replaying a patch turns the old lines into the new ones. -/
theorem Patch.replay_eq {oldLine newLine : Nat} {old new : List String} {hs : List Hunk}
    (patch : Patch oldLine newLine old new hs) : replay hs oldLine old = some new := by
  induction patch with
  | copied => rfl
  | @changed oldLine newLine lines oldRest newRest h hs atOld atNew unkept some apart rest ih =>
      have copied : h.oldLine - oldLine = lines.length := by omega
      have fits : oldLine ≤ h.oldLine ∧
          lines.length ≤ (lines ++ (h.removed ++ oldRest)).length ∧
          h.removed <+: (lines ++ (h.removed ++ oldRest)).drop lines.length := by
        rw [List.drop_left, List.length_append]
        exact ⟨by omega, by omega, List.prefix_append _ _⟩
      rw [replay, copied, if_pos fits, ← List.drop_drop, List.drop_left,
        List.drop_left, ih, List.take_left]
      rfl

/-! ## Rows -/

/-- The lines of a text without the line feeds that end them. -/
def linesIn (text : String) : List String :=
  (Text.feedLines text.toList).map String.ofList

namespace Hunk

def header (h : Hunk) : String :=
  s!"@@ -{h.oldLine},{h.removed.length} +{h.newLine},{h.added.length} @@"

/-- A changed line with its mark. -/
def marked? : Change String → Option String
  | .keep _ => none
  | .remove line => some ("-" ++ line)
  | .add line => some ("+" ++ line)

/-- The header of a hunk and its changed lines with their marks. -/
def rows (h : Hunk) : List String :=
  h.header :: h.changes.filterMap marked?

theorem join_lineText (cs : List (Change String)) :
    String.join (cs.map lineText) = String.join ((cs.filterMap marked?).map (· ++ "\n")) := by
  induction cs with
  | nil => rfl
  | cons c cs ih =>
      cases c with
      | keep line =>
          rw [List.map_cons, String.join_cons, ih]
          exact String.empty_append
      | remove line | add line =>
          rw [List.map_cons, String.join_cons, ih]
          exact String.join_cons.symm

theorem text_eq (h : Hunk) : h.text = String.join (h.rows.map (· ++ "\n")) := by
  have header : h.header ++ "\n" =
      s!"@@ -{h.oldLine},{h.removed.length} +{h.newLine},{h.added.length} @@\n" := by
    simp only [Hunk.header, String.append_assoc]
    rfl
  rw [text, join_lineText, ← header, rows, List.map_cons, String.join_cons]

/-- The changed lines of a hunk are in some order those that it removes and those that it
adds. -/
theorem marked_perm (cs : List (Change String)) :
    (cs.filterMap marked?).Perm
      ((cs.filterMap Change.removed?).map ("-" ++ ·) ++
        (cs.filterMap Change.added?).map ("+" ++ ·)) := by
  induction cs with
  | nil => exact .nil
  | cons c cs ih =>
      cases c with
      | keep line => exact ih
      | remove line => exact ih.cons _
      | add line => exact (ih.cons _).trans List.perm_middle.symm

theorem header_unbroken (h : Hunk) : '\n' ∉ h.header.toList := by
  have digits (n : Nat) : '\n' ∉ Nat.toDigits 10 n := by
    intro mem
    cases Nat.isDigit_of_mem_toDigits (by decide) (by decide) mem
  simp [header, String.toList_append, toString, digits]

theorem mem_of_take_drop_eq {lines part : List String} {i n : Nat} {line : String}
    (cut : (lines.drop i).take n = part) (mem : line ∈ part) : line ∈ lines := by
  rw [← cut] at mem
  exact List.mem_of_mem_drop (List.mem_of_mem_take mem)

/-- The rows of a hunk are lines, if its lines are. -/
theorem Located.rows_unbroken {old new : List String} {h : Hunk} (located : h.Located old new)
    (oldUnbroken : ∀ line ∈ old, '\n' ∉ line.toList)
    (newUnbroken : ∀ line ∈ new, '\n' ∉ line.toList) : ∀ row ∈ h.rows, '\n' ∉ row.toList := by
  intro row mem
  rcases List.mem_cons.mp mem with rfl | mem
  · exact header_unbroken h
  · rcases List.mem_append.mp ((marked_perm h.changes).mem_iff.mp mem) with isRemoved | isAdded
    · obtain ⟨line, inHunk, rfl⟩ := List.mem_map.mp isRemoved
      have unbroken := oldUnbroken line (mem_of_take_drop_eq located.removed_eq inHunk)
      simpa [String.toList_append] using unbroken
    · obtain ⟨line, inHunk, rfl⟩ := List.mem_map.mp isAdded
      have unbroken := newUnbroken line (mem_of_take_drop_eq located.added_eq inHunk)
      simpa [String.toList_append] using unbroken

end Hunk

theorem linesIn_unbroken {text line : String} (mem : line ∈ linesIn text) : '\n' ∉ line.toList := by
  obtain ⟨cs, isLine, rfl⟩ := List.mem_map.mp mem
  rw [String.toList_ofList]
  exact Text.not_mem_of_mem_feedLines isLine

/-- The hunks of the difference of two texts. -/
def hunksOf (old new : String) : List Hunk :=
  hunks (changes (linesIn old) (linesIn new))

theorem hunksOf_patch (old new : String) :
    Patch 1 1 (linesIn old) (linesIn new) (hunksOf old new) := by
  have turns := (compares_changes (linesIn old) (linesIn new)).turns
  have patch := Patch.patch_hunks (changes (linesIn old) (linesIn new))
  rwa [turns.old_eq, turns.new_eq] at patch

theorem hunksOf_located (old new : String) :
    ∀ h ∈ hunksOf old new, h.Located (linesIn old) (linesIn new) :=
  (hunksOf_patch old new).located [] []

theorem rows_unbroken {old new row : String} (mem : row ∈ (hunksOf old new).flatMap Hunk.rows) :
    '\n' ∉ row.toList := by
  obtain ⟨h, isHunk, isRow⟩ := List.mem_flatMap.mp mem
  exact (hunksOf_located old new h isHunk).rows_unbroken (fun _ => linesIn_unbroken)
    (fun _ => linesIn_unbroken) row isRow

/-- The difference of two texts is made of the rows of its hunks. -/
theorem ofTexts_eq (old new : String) :
    ofTexts old new =
      String.join (((hunksOf old new).flatMap Hunk.rows).map (· ++ "\n")) := by
  have joined (hs : List Hunk) :
      String.join (hs.map Hunk.text) = String.join ((hs.flatMap Hunk.rows).map (· ++ "\n")) := by
    induction hs with
    | nil => rfl
    | cons h hs ih =>
        rw [List.map_cons, String.join_cons, ih, Hunk.text_eq, ← String.join_append,
          ← List.map_append]
        rfl
  exact joined (hunksOf old new)

theorem toList_ofTexts (old new : String) :
    (ofTexts old new).toList =
      (((hunksOf old new).flatMap Hunk.rows).map String.toList).flatMap (· ++ ['\n']) := by
  rw [ofTexts_eq, String.toList_join, List.flatMap_map, List.flatMap_map]
  simp only [String.toList_append]
  rfl

theorem linesIn_ofTexts (old new : String) :
    linesIn (ofTexts old new) = (hunksOf old new).flatMap Hunk.rows := by
  have unbroken : ∀ row ∈ ((hunksOf old new).flatMap Hunk.rows).map String.toList, '\n' ∉ row := by
    rw [List.forall_mem_map]
    exact fun _ => rows_unbroken
  rw [linesIn, toList_ofTexts, Text.feedLines_rows unbroken, List.map_map]
  simp [Function.comp_def]

/-! ## Equal texts -/

theorem hunksFrom_keep (lines : List String) (oldLine newLine : Nat) :
    hunksFrom oldLine newLine [] (lines.map .keep) = [] := by
  induction lines generalizing oldLine newLine with
  | nil => rfl
  | cons line lines ih => exact ih _ _

/-- There are hunks only if lines differ. -/
theorem hunksOf_eq_nil_iff (old new : String) :
    hunksOf old new = [] ↔ linesIn old = linesIn new := by
  constructor
  · intro none
    have patch := hunksOf_patch old new
    rw [none] at patch
    have same := patch.replay_eq
    exact Option.some.inj same
  · intro same
    rw [hunksOf, same, changes_self]
    exact hunksFrom_keep _ 1 1

theorem ofTexts_eq_empty_iff (old new : String) :
    ofTexts old new = "" ↔ hunksOf old new = [] := by
  constructor
  · intro empty
    have none := linesIn_ofTexts old new
    rw [empty] at none
    exact List.eq_nil_iff_forall_not_mem.mpr fun h mem =>
      List.cons_ne_nil _ _ (List.flatMap_eq_nil_iff.mp none.symm h mem)
  · intro none
    rw [ofTexts_eq, none]
    rfl

/-- The difference of two texts is a patch for their lines.  Each hunk is a header, with line
numbers and counts, and as many marked lines; its lines are where the header says, there are
lines between two hunks, and replaying the hunks turns the old lines into the new ones.  There
is no hunk if and only if the lines are equal. -/
theorem ofTexts_patch (old new : String) :
    ∃ hs : List Hunk,
      ofTexts old new = String.join ((hs.flatMap Hunk.rows).map (· ++ "\n")) ∧
      linesIn (ofTexts old new) = hs.flatMap Hunk.rows ∧
      (∀ h ∈ hs, h.Located (linesIn old) (linesIn new) ∧
        ∃ marked : List String, h.rows = h.header :: marked ∧
          marked.Perm (h.removed.map ("-" ++ ·) ++ h.added.map ("+" ++ ·))) ∧
      hs.IsChain Hunk.Apart ∧
      replay hs 1 (linesIn old) = some (linesIn new) ∧
      (ofTexts old new = "" ↔ linesIn old = linesIn new) := by
  have patch := hunksOf_patch old new
  refine ⟨hunksOf old new, ofTexts_eq old new, linesIn_ofTexts old new, fun h mem => ?_,
    patch.isChain, patch.replay_eq,
    (ofTexts_eq_empty_iff old new).trans (hunksOf_eq_nil_iff old new)⟩
  exact ⟨hunksOf_located old new h mem, _, rfl, Hunk.marked_perm h.changes⟩

end EditGuard.Difference
