import EditGuard.Function.Text
import Mathlib.Data.List.Infix

/-!
# Parts of texts and positions in them

A text is cut at a position into what the two parts of it up to and from there are.  The position
of a text in another one is the first place from the offset on at which it occurs.
-/

namespace EditGuard

namespace Text

/-! ## Occurrences -/

/-- A text occurs in another one behind a number of characters. -/
def OccursAt (needle hay : List Char) (i : Nat) : Prop :=
  needle <+: hay.drop i

variable {needle hay : List Char} {i : Nat}

/-- The place of a text that is not empty is inside the other one. -/
theorem OccursAt.add_length_le (occurs : OccursAt needle hay i) (notEmpty : needle ≠ []) :
    i + needle.length ≤ hay.length := by
  have shorter := occurs.length_le
  have some := List.length_pos_iff.mpr notEmpty
  rw [List.length_drop] at shorter
  omega

theorem occursAt_drop {i j : Nat} :
    OccursAt needle (hay.drop j) i ↔ OccursAt needle hay (j + i) := by
  rw [OccursAt, OccursAt, List.drop_drop]

theorem isPrefixOf_iff_occursAt : needle.isPrefixOf hay = true ↔ OccursAt needle hay 0 :=
  List.isPrefixOf_iff_prefix

theorem not_occursAt_nil (notEmpty : needle ≠ []) (j : Nat) : ¬OccursAt needle [] j := by
  intro occurs
  rw [OccursAt, List.drop_nil] at occurs
  exact notEmpty (List.prefix_nil.mp occurs)

/-- What is found is the first place at which a text occurs. -/
theorem find?_eq_some_iff (notEmpty : needle ≠ []) : find? needle hay = some i ↔
    OccursAt needle hay i ∧ ∀ j, OccursAt needle hay j → i ≤ j := by
  induction hay generalizing i with
  | nil => simp [find?, notEmpty, not_occursAt_nil notEmpty]
  | cons c cs ih =>
      rw [find?]
      by_cases here : needle.isPrefixOf (c :: cs) = true
      · have occurs := isPrefixOf_iff_occursAt.mp here
        rw [if_pos here, Option.some_inj]
        constructor
        · rintro rfl
          exact ⟨occurs, fun _ _ => Nat.zero_le _⟩
        · rintro ⟨-, first⟩
          exact (Nat.le_zero.mp (first 0 occurs)).symm
      · have elsewhere : ¬OccursAt needle (c :: cs) 0 := mt isPrefixOf_iff_occursAt.mpr here
        rw [if_neg here, Option.map_eq_some_iff]
        constructor
        · rintro ⟨k, found, rfl⟩
          obtain ⟨occurs, first⟩ := ih.mp found
          refine ⟨occurs, ?_⟩
          rintro (_ | j) other
          · exact absurd other elsewhere
          · exact Nat.succ_le_succ (first j other)
        · rintro ⟨occurs, first⟩
          obtain _ | k := i
          · exact absurd occurs elsewhere
          · refine ⟨k, ih.mpr ⟨occurs, ?_⟩, rfl⟩
            intro j other
            exact Nat.le_of_succ_le_succ (first (j + 1) other)

theorem find?_eq_none_iff (notEmpty : needle ≠ []) :
    find? needle hay = none ↔ ∀ j, ¬OccursAt needle hay j := by
  induction hay with
  | nil => simp [find?, notEmpty, not_occursAt_nil notEmpty]
  | cons c cs ih =>
      rw [find?]
      by_cases here : needle.isPrefixOf (c :: cs) = true
      · rw [if_pos here]
        refine ⟨nofun, fun nowhere => absurd (isPrefixOf_iff_occursAt.mp here) (nowhere 0)⟩
      · rw [if_neg here, Option.map_eq_none_iff, ih]
        constructor
        · rintro nowhere (_ | j)
          · exact mt isPrefixOf_iff_occursAt.mpr here
          · exact nowhere j
        · exact fun nowhere j => nowhere (j + 1)

end Text

namespace Function

/-! ## Parts -/

/-- Where a position that may count from the end is in a text. -/
def cutAt (s : List Char) (position : Int) : Nat :=
  (fromEnd s.length position).toNat

theorem substringOf_zero (s : List Char) (position : Int) :
    substringOf s 0 (some position) = s.take (cutAt s position) := by
  have beginning : max 0 (fromEnd (s.length : Int) 0) = 0 := rfl
  simp only [substringOf, beginning, Int.toNat_zero, List.drop_zero, Int.sub_zero, Int.zero_add]
  rw [cutAt, fromEnd]
  by_cases negative : position < 0
  · rw [if_pos negative, if_pos negative]
  · rw [if_neg negative, if_neg negative, List.take_eq_take_iff]
    omega

theorem substringOf_none (s : List Char) (position : Int) :
    substringOf s position none = s.drop (cutAt s position) := by
  have start : (max 0 (fromEnd (s.length : Int) position)).toNat = cutAt s position := by
    rw [cutAt]
    omega
  simp only [substringOf, start]
  apply List.take_of_length_le
  rw [List.length_drop]
  omega

/-- The parts of a text up to and from a position are the whole. -/
theorem substringOf_append (s : List Char) (position : Int) :
    substringOf s 0 (some position) ++ substringOf s position none = s := by
  rw [substringOf_zero, substringOf_none, List.take_append_drop]

/-- The part of a text of the length of another one that occurs there is that other one. -/
theorem substringOf_of_occursAt {hay needle : List Char} {i : Nat}
    (occurs : Text.OccursAt needle hay i) (notEmpty : needle ≠ []) :
    substringOf hay i (some needle.length) = needle := by
  have inside := occurs.add_length_le notEmpty
  have start : (max 0 (fromEnd (hay.length : Int) i)).toNat = i := by
    rw [fromEnd]
    omega
  have length : (min (max 0 (fromEnd (hay.length : Int) i) + needle.length) hay.length -
      max 0 (fromEnd (hay.length : Int) i)).toNat = needle.length := by
    rw [fromEnd]
    omega
  have positive : ¬(needle.length : Int) < 0 := by omega
  simp only [substringOf, if_neg positive, start, length]
  exact (List.prefix_iff_eq_take.mp occurs).symm

/-! ## Positions -/

/-- The first place from an offset on at which a text occurs in another one. -/
structure FirstFrom (needle hay : List Char) (offset : Int) (i : Nat) : Prop where
  notBefore : offset ≤ i
  occurs : Text.OccursAt needle hay i
  least : ∀ j : Nat, offset ≤ j → Text.OccursAt needle hay j → i ≤ j

/-- Whether a place is in a text or at its end. -/
def InText (hay : List Char) (offset : Int) : Prop :=
  0 ≤ offset ∧ offset ≤ hay.length

variable {hay needle : List Char}

theorem positionIn?_of_not_inText {offset : Int}
    (outside : ¬InText hay (fromEnd hay.length offset)) :
    positionIn? hay needle offset = none := by
  rw [InText, not_and_or, Int.not_le, Int.not_le] at outside
  exact if_pos (.inr outside)

theorem positionIn?_of_inText (notEmpty : needle ≠ []) {offset : Int}
    (inside : InText hay (fromEnd hay.length offset)) :
    positionIn? hay needle offset =
      (Text.find? needle (hay.drop (cutAt hay offset))).map (cutAt hay offset + ·) := by
  have present : ¬(needle.isEmpty = true ∨ fromEnd hay.length offset < 0 ∨
      (hay.length : Int) < fromEnd hay.length offset) := by
    rw [List.isEmpty_iff, not_or, not_or, Int.not_lt, Int.not_lt]
    exact ⟨notEmpty, inside⟩
  exact if_neg present

theorem positionIn?_of_firstFrom (notEmpty : needle ≠ []) {offset : Int}
    (inside : InText hay (fromEnd hay.length offset)) {i : Nat}
    (first : FirstFrom needle hay (fromEnd hay.length offset) i) :
    positionIn? hay needle offset = some i := by
  have start : (cutAt hay offset : Int) = fromEnd hay.length offset :=
    Int.toNat_of_nonneg inside.1
  obtain ⟨notBefore, occurs, least⟩ := first
  rw [← start] at notBefore least
  obtain ⟨k, rfl⟩ := Nat.exists_eq_add_of_le (Int.ofNat_le.mp notBefore)
  rw [positionIn?_of_inText notEmpty inside, Option.map_eq_some_iff]
  refine ⟨k, (Text.find?_eq_some_iff notEmpty).mpr ⟨Text.occursAt_drop.mpr occurs, ?_⟩, rfl⟩
  intro j other
  have later := least _ (Int.ofNat_le.mpr (Nat.le_add_right _ j)) (Text.occursAt_drop.mp other)
  exact Nat.le_of_add_le_add_left later

theorem positionIn?_of_absent (notEmpty : needle ≠ []) {offset : Int}
    (absent : ∀ i : Nat, fromEnd hay.length offset ≤ i → ¬Text.OccursAt needle hay i) :
    positionIn? hay needle offset = none := by
  by_cases inside : InText hay (fromEnd hay.length offset)
  · rw [positionIn?_of_inText notEmpty inside, Option.map_eq_none_iff,
      Text.find?_eq_none_iff notEmpty]
    intro j occurs
    apply absent _ _ (Text.occursAt_drop.mp occurs)
    rw [cutAt]
    omega
  · exact positionIn?_of_not_inText inside

/-- A position that is found is a place at which the text occurs. -/
theorem occursAt_of_positionIn? (notEmpty : needle ≠ []) {offset : Int} {i : Nat}
    (found : positionIn? hay needle offset = some i) : Text.OccursAt needle hay i := by
  by_cases inside : InText hay (fromEnd hay.length offset)
  · rw [positionIn?_of_inText notEmpty inside, Option.map_eq_some_iff] at found
    obtain ⟨k, found, rfl⟩ := found
    exact Text.occursAt_drop.mp ((Text.find?_eq_some_iff notEmpty).mp found).1
  · rw [positionIn?_of_not_inText inside] at found
    cases found

end Function

end EditGuard
