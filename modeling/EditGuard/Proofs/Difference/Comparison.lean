import EditGuard.Proofs.Difference.Meeting
import EditGuard.Proofs.Difference.Script

/-!
# Comparing sequences

A comparison takes off what two sequences share at their ends, cuts the rest where the searches
meet and compares the parts.  It is written down here as the runs that end without looking
outside of a sequence: the searches do not fail, and the places where they meet lie within what
they compare.  Every comparison is such a run, and what it finds is a script.
-/

namespace EditGuard.Difference

variable {α : Type} [BEq α] {old new : List α}

/-! ## Shared ends -/

/-- What two sequences share at their ends, as much as they do. -/
structure Trims (old new start oldPart newPart finish : List α) : Prop where
  old_eq : old = start ++ (oldPart ++ finish)
  new_eq : new = start ++ (newPart ++ finish)
  length_start : start.length = sharedLength old new
  length_finish : finish.length =
    sharedLength (old.drop start.length).reverse (new.drop start.length).reverse
  firstsDiffer : ∀ a b, oldPart.head? = some a → newPart.head? = some b → a ≠ b
  lastsDiffer : ∀ a b, oldPart.getLast? = some a → newPart.getLast? = some b → a ≠ b

theorem Trims.length_add {start oldPart newPart finish : List α}
    (trims : Trims old new start oldPart newPart finish) :
    oldPart.length + newPart.length ≤ old.length + new.length := by
  have oldLength := congrArg List.length trims.old_eq
  have newLength := congrArg List.length trims.new_eq
  simp only [List.length_append] at oldLength newLength
  omega

theorem exists_shared [LawfulBEq α] (old new : List α) :
    ∃ start oldRest newRest, old = start ++ oldRest ∧ new = start ++ newRest ∧
      start.length = sharedLength old new ∧
      ∀ a b, oldRest.head? = some a → newRest.head? = some b → a ≠ b := by
  induction old generalizing new with
  | nil => exact ⟨[], [], new, rfl, rfl, rfl, nofun⟩
  | cons a old ih =>
      cases new with
      | nil => exact ⟨[], a :: old, [], rfl, rfl, rfl, nofun⟩
      | cons b new =>
          by_cases same : (a == b) = true
          · obtain ⟨start, oldRest, newRest, rfl, rfl, length, differ⟩ := ih new
            obtain rfl := eq_of_beq same
            refine ⟨a :: start, oldRest, newRest, rfl, rfl, ?_, differ⟩
            rw [sharedLength, if_pos same, ← length]
            rfl
          · refine ⟨[], a :: old, b :: new, rfl, rfl, ?_, ?_⟩
            · rw [sharedLength, if_neg same]
              rfl
            · rintro _ _ ⟨⟩ ⟨⟩ equal
              exact same (beq_iff_eq.mpr equal)

/-- Two sequences are cut where the searches meet, in the grid and not at its ends. -/
theorem cut?_eq_some_iff {x y : Nat} :
    cut? old new = some (x, y) ↔
      meeting (gridOf old.toArray new.toArray) = .ok (some ((x : Int), (y : Int))) ∧
        x ≤ old.length ∧ y ≤ new.length ∧ (x, y) ≠ (0, 0) ∧
          (x, y) ≠ (old.length, new.length) := by
  unfold cut?
  split
  · next x' y' met =>
      rw [met]
      constructor
      · intro cut
        split at cut
        · next bounds =>
            simp only [Option.some.injEq, Prod.mk.injEq, ne_eq] at cut bounds
            simp only [Except.ok.injEq, Option.some.injEq, Prod.mk.injEq, ne_eq]
            omega
        · contradiction
      · intro cut
        simp only [Except.ok.injEq, Option.some.injEq, Prod.mk.injEq, ne_eq] at cut
        rw [if_pos (by simp only [Prod.mk.injEq, ne_eq]; omega)]
        simp only [Option.some.injEq, Prod.mk.injEq]
        omega
  · next unmet =>
      refine ⟨nofun, fun cut => ?_⟩
      exact absurd cut.1 (unmet _ _)

/-- The changes of what is left between shared ends. -/
def inner (old new : List α) : List (Change α) :=
  match cut? old new with
  | some (x, y) => changes (old.take x) (new.take y) ++ changes (old.drop x) (new.drop y)
  | none => old.map .remove ++ new.map .add

theorem changes_def (old new : List α) :
    changes old new =
      let first := sharedLength old new
      let oldRest := old.drop first
      let newRest := new.drop first
      let last := sharedLength oldRest.reverse newRest.reverse
      (old.take first).map .keep ++
        inner (oldRest.take (oldRest.length - last)) (newRest.take (newRest.length - last)) ++
        (oldRest.drop (oldRest.length - last)).map .keep := by
  rw [changes]
  unfold inner
  split
  · next cut => simp only [cut]
  · next uncut => simp only [uncut]

/-- A comparison is made of the shared ends and of the parts between them. -/
theorem Trims.changes_eq {start oldPart newPart finish : List α}
    (trims : Trims old new start oldPart newPart finish) :
    changes old new = start.map .keep ++ inner oldPart newPart ++ finish.map .keep := by
  obtain ⟨rfl, rfl, length, lengthBack, -, -⟩ := trims
  have oldLength : (oldPart ++ finish).length - finish.length = oldPart.length := by
    rw [List.length_append, Nat.add_sub_cancel]
  have newLength : (newPart ++ finish).length - finish.length = newPart.length := by
    rw [List.length_append, Nat.add_sub_cancel]
  rw [List.drop_left, List.drop_left] at lengthBack
  rw [changes_def]
  simp only [← length, List.take_left, List.drop_left, ← lengthBack, oldLength, newLength]

theorem exists_trims [LawfulBEq α] (old new : List α) :
    ∃ start oldPart newPart finish, Trims old new start oldPart newPart finish := by
  obtain ⟨start, oldRest, newRest, rfl, rfl, length, differ⟩ := exists_shared old new
  obtain ⟨finish, oldBack, newBack, oldEq, newEq, lengthBack, differBack⟩ :=
    exists_shared oldRest.reverse newRest.reverse
  obtain rfl : oldRest = oldBack.reverse ++ finish.reverse := by
    rw [← List.reverse_append, ← oldEq, List.reverse_reverse]
  obtain rfl : newRest = newBack.reverse ++ finish.reverse := by
    rw [← List.reverse_append, ← newEq, List.reverse_reverse]
  rw [← List.length_reverse] at lengthBack
  refine ⟨start, oldBack.reverse, newBack.reverse, finish.reverse, rfl, rfl, length, ?_, ?_, ?_⟩
  · rw [List.drop_left, List.drop_left]
    exact lengthBack
  · intro a b first second
    exact differ a b (by rw [List.head?_append, first]; rfl)
      (by rw [List.head?_append, second]; rfl)
  · intro a b first second
    rw [List.getLast?_reverse] at first second
    exact differBack a b first second

/-! ## Runs -/

/-- The searches end without looking outside, and where they meet is within both sequences. -/
theorem exists_meeting_within (old new : List α) :
    ∃ point, meeting (gridOf old.toArray new.toArray) = .ok point ∧
      ∀ p, point = some p → ∃ a ≤ old.length, ∃ b ≤ new.length, p = ((a : Int), (b : Int)) := by
  obtain ⟨least, shortest⟩ := (gridOf old.toArray new.toArray).exists_shortest
  obtain ⟨point, met, middle, -⟩ := exists_meeting shortest
  refine ⟨point, met, fun p isPoint => ?_⟩
  obtain ⟨a, b, i, j, across, down, -, -, -, rest⟩ := middle p.1 p.2 isPoint
  obtain ⟨inOld, inNew, -, -⟩ := rest.bounds
  exact ⟨a, inOld, b, inNew, Prod.ext across down⟩

/-- The runs of a comparison that end and do not look outside.  The parts between the shared
ends are compared on both sides of the position where the searches meet, which lies within
them, or they are replaced if the searches do not meet between their ends. -/
inductive Compares : List α → List α → List (Change α) → Prop
  | replaced {old new start oldPart newPart finish : List α} {point : Option (Int × Int)}
      (trims : Trims old new start oldPart newPart finish)
      (met : meeting (gridOf oldPart.toArray newPart.toArray) = .ok point)
      (undivided : ∀ p, point = some p →
        p = (0, 0) ∨ p = ((oldPart.length : Int), (newPart.length : Int))) :
      Compares old new
        (start.map .keep ++ (oldPart.map .remove ++ newPart.map .add) ++ finish.map .keep)
  | divided {old new start oldPart newPart finish : List α} {x y : Nat}
      {before after : List (Change α)}
      (trims : Trims old new start oldPart newPart finish)
      (met : meeting (gridOf oldPart.toArray newPart.toArray) = .ok (some ((x : Int), (y : Int))))
      (inOld : x ≤ oldPart.length) (inNew : y ≤ newPart.length)
      (notStart : (x, y) ≠ (0, 0)) (notEnd : (x, y) ≠ (oldPart.length, newPart.length))
      (first : Compares (oldPart.take x) (newPart.take y) before)
      (second : Compares (oldPart.drop x) (newPart.drop y) after) :
      Compares old new (start.map .keep ++ (before ++ after) ++ finish.map .keep)

/-- A comparison is a run that ends and does not look outside. -/
theorem compares_changes [LawfulBEq α] (old new : List α) :
    Compares old new (changes old new) := by
  generalize size : old.length + new.length = n
  induction n using Nat.strongRecOn generalizing old new with
  | ind n ih =>
      obtain ⟨start, oldPart, newPart, finish, trims⟩ := exists_trims old new
      rw [trims.changes_eq]
      unfold inner
      split
      · next x y cut =>
          obtain ⟨metThere, inOld, inNew, notStart, notEnd⟩ := cut?_eq_some_iff.mp cut
          have smaller := cut?_bounds cut
          have parts := trims.length_add
          refine .divided trims metThere inOld inNew notStart notEnd
            (ih _ ?_ _ _ rfl) (ih _ ?_ _ _ rfl)
          · rw [List.length_take, List.length_take]
            omega
          · rw [List.length_drop, List.length_drop]
            omega
      · next uncut =>
          obtain ⟨point, met, within⟩ := exists_meeting_within oldPart newPart
          refine .replaced trims met fun p isPoint => ?_
          obtain ⟨a, inOld, b, inNew, rfl⟩ := within p isPoint
          by_contra inside
          rw [not_or] at inside
          have notStart : (a, b) ≠ (0, 0) := by simpa using inside.1
          have notEnd : (a, b) ≠ (oldPart.length, newPart.length) := by
            simpa [Int.natCast_inj] using inside.2
          have cut := cut?_eq_some_iff.mpr
            ⟨met.trans (congrArg Except.ok isPoint), inOld, inNew, notStart, notEnd⟩
          rw [uncut] at cut
          contradiction

/-- There is only one run, and it makes the changes. -/
theorem Compares.eq_changes {cs : List (Change α)} (compares : Compares old new cs) :
    cs = changes old new := by
  induction compares with
  | @replaced old new start oldPart newPart finish point trims met undivided =>
      have uncut : cut? oldPart newPart = none := by
        refine Option.eq_none_iff_forall_ne_some.mpr fun (x, y) cut => ?_
        obtain ⟨metThere, -, -, notStart, notEnd⟩ := cut?_eq_some_iff.mp cut
        have isPoint := Except.ok.inj (met.symm.trans metThere)
        have corner := undivided _ isPoint
        simp only [Prod.mk.injEq, ne_eq] at corner notStart notEnd
        omega
      rw [trims.changes_eq, inner, uncut]
  | @divided old new start oldPart newPart finish x y before after trims met inOld inNew notStart
      notEnd first second ihFirst ihSecond =>
      have cut := cut?_eq_some_iff.mpr ⟨met, inOld, inNew, notStart, notEnd⟩
      rw [trims.changes_eq, inner, cut, ihFirst, ihSecond]

/-- What a run makes of two sequences is a script. -/
theorem Compares.turns {cs : List (Change α)} (compares : Compares old new cs) :
    Turns old new cs := by
  induction compares with
  | replaced trims met undivided =>
      rw [trims.old_eq, trims.new_eq, List.append_assoc]
      exact (Turns.keep _).append ((Turns.replaced _ _).append (Turns.keep _))
  | divided trims met inOld inNew notStart notEnd first second ihFirst ihSecond =>
      have both := ihFirst.append ihSecond
      rw [List.take_append_drop, List.take_append_drop] at both
      rw [trims.old_eq, trims.new_eq, List.append_assoc]
      exact (Turns.keep _).append (both.append (Turns.keep _))

/-- Comparing lines is safe and makes a script.  Wherever the searches meet is within both
lists, they never look outside, the comparison is the one run, and what it keeps and removes is
the old list and what it keeps and adds the new one. -/
theorem comparison_safe (old new : List String) :
    (∃ point, meeting (gridOf old.toArray new.toArray) = .ok point ∧
      ∀ x y, point = some (x, y) → 0 ≤ x ∧ x ≤ old.length ∧ 0 ≤ y ∧ y ≤ new.length) ∧
    (∀ cs, Compares old new cs ↔ cs = changes old new) ∧
    (changes old new).filterMap Change.old? = old ∧
    (changes old new).filterMap Change.new? = new := by
  refine ⟨?_, fun cs => ⟨Compares.eq_changes, fun same => same ▸ compares_changes old new⟩,
    (compares_changes old new).turns.old_eq, (compares_changes old new).turns.new_eq⟩
  obtain ⟨point, met, within⟩ := exists_meeting_within old new
  refine ⟨point, met, fun x y isPoint => ?_⟩
  obtain ⟨a, inOld, b, inNew, same⟩ := within (x, y) isPoint
  obtain ⟨rfl, rfl⟩ := Prod.mk.inj same
  omega

end EditGuard.Difference
