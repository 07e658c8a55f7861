import Mathlib.Order.Lattice.Nat
import EditGuard.Proofs.Difference.Comparison

/-!
# Minimal differences

A comparison changes as little as possible, unless what it compares is further apart than the
searches try.  The searches meet in the middle of a shortest path, so that the parts on both
sides are as far apart as its halves have edits; and what shares neither its first nor its last
items and has no middle inside is nothing that could be kept.
-/

namespace EditGuard.Difference

/-! ## Meeting at an end -/

namespace Grid

variable {g : Grid} {d least : Nat} {x y : Int}

/-- A path with at most one edit through a grid whose ends differ goes over no equal items. -/
theorem Path.size_le_of_differ (path : g.Path d 0 0 g.width g.height) (few : d ≤ 1)
    (firstsDiffer : 0 < g.width → 0 < g.height → g.same 0 0 = false)
    (lastsDiffer : 0 < g.width → 0 < g.height →
      g.same (g.width - 1) (g.height - 1) = false) :
    g.width + g.height ≤ d := by
  have drift := path.drift
  by_contra longer
  have first := firstsDiffer (by omega) (by omega)
  have last := lastsDiffer (by omega) (by omega)
  cases d with
  | zero =>
      have same := path.same_of_free (i := 0) (by omega)
      rw [Nat.zero_add] at same
      exact Bool.false_ne_true (first.symm.trans same)
  | succ d =>
      obtain rfl : d = 0 := by omega
      obtain ⟨a, b, a', b', before, after, edit⟩ := path.exists_lastEdit
      have driftBefore := before.drift
      have driftAfter := after.drift
      have boundsAfter := after.bounds
      -- Equal items before the edit are the first ones, equal items after it the last ones.
      rcases Nat.eq_zero_or_pos a with rfl | more
      · have same := after.same_of_free (i := g.width - 1 - a') (by omega)
        rw [show a' + (g.width - 1 - a') = g.width - 1 by omega,
          show b' + (g.width - 1 - a') = g.height - 1 by omega] at same
        exact Bool.false_ne_true (last.symm.trans same)
      · have same := before.same_of_free (i := 0) (by omega)
        rw [Nat.zero_add] at same
        exact Bool.false_ne_true (first.symm.trans same)

/-- An end of the grid is in the middle only of a path with at most one edit. -/
theorem Shortest.le_one_of_corner (shortest : g.Shortest least) (middle : g.Middle least x y)
    (corner : (x, y) = (0, 0) ∨ (x, y) = ((g.width : Int), (g.height : Int))) : least ≤ 1 := by
  obtain ⟨a, b, i, j, rfl, rfl, total, halves, first, second⟩ := middle
  rcases corner with atStart | atEnd
  · simp only [Prod.mk.injEq, Int.natCast_eq_zero] at atStart
    obtain ⟨rfl, rfl⟩ := atStart
    have least := shortest.least j second
    omega
  · simp only [Prod.mk.injEq, Int.natCast_inj] at atEnd
    obtain ⟨rfl, rfl⟩ := atEnd
    have least := shortest.least i first
    omega

end Grid

/-! ## The cost of a comparison -/

section

variable {α : Type} [BEq α] [LawfulBEq α] {old new : List α} {cs cs' : List (Change α)}

/-- A path through the grid of parts that share no ends goes over nothing, if it has at most one
edit. -/
theorem Trims.length_le {start oldPart newPart finish : List α} {d : Nat}
    (trims : Trims old new start oldPart newPart finish)
    (path : (gridOf oldPart.toArray newPart.toArray).Path d 0 0 oldPart.length newPart.length)
    (few : d ≤ 1) : oldPart.length + newPart.length ≤ d := by
  refine Grid.Path.size_le_of_differ path few ?_ ?_
  · intro _ _
    refine Bool.eq_false_iff.mpr fun same => ?_
    obtain ⟨a, first, second⟩ := same_gridOf_iff.mp same
    rw [← List.head?_eq_getElem?] at first second
    exact trims.firstsDiffer a a first second rfl
  · intro _ _
    refine Bool.eq_false_iff.mpr fun same => ?_
    obtain ⟨a, first, second⟩ := same_gridOf_iff.mp same
    exact trims.lastsDiffer a a (List.getLast?_eq_getElem?.trans first)
      (List.getLast?_eq_getElem?.trans second) rfl

/-- A shortest path through the grid of the parts between shared ends has no more edits than a
script for the whole. -/
theorem Trims.exists_shortest {start oldPart newPart finish : List α}
    (trims : Trims old new start oldPart newPart finish) (turns : Turns old new cs) :
    ∃ least ≤ cost cs, (gridOf oldPart.toArray newPart.toArray).Shortest least := by
  rw [trims.old_eq, trims.new_eq] at turns
  obtain ⟨between, turnsBetween, fewer⟩ := turns.exists_between
  have path := turnsBetween.path (x := 0) (y := 0) (Nat.zero_le _) (Nat.zero_le _)
  obtain ⟨least, shortest⟩ := (gridOf oldPart.toArray newPart.toArray).exists_shortest
  exact ⟨least, (shortest.least _ path).trans fewer, shortest⟩

/-- No script has fewer changes than a run, if it has few enough of them for the searches. -/
theorem Compares.cost_le (compares : Compares old new cs) (turns : Turns old new cs')
    (near : cost cs' + 1 < 2 * costLimit) : cost cs ≤ cost cs' := by
  induction compares generalizing cs' with
  | @replaced old new start oldPart newPart finish point trims met undivided =>
      obtain ⟨least, fewer, shortest⟩ := trims.exists_shortest turns
      obtain ⟨found, metThere, middle, unfound⟩ := exists_meeting shortest
      obtain rfl := Except.ok.inj (met.symm.trans metThere)
      have all : oldPart.length + newPart.length ≤ least := by
        cases point with
        | none => exact (unfound rfl).resolve_right (by omega)
        | some p =>
            have few := shortest.le_one_of_corner (middle p.1 p.2 rfl) (undivided p rfl)
            exact trims.length_le shortest.path few
      rw [cost_append, cost_append, cost_keep, cost_keep, cost_replaced]
      omega
  | @divided old new start oldPart newPart finish x y before after trims met inOld inNew notStart
      notEnd first second ihFirst ihSecond =>
      obtain ⟨least, fewer, shortest⟩ := trims.exists_shortest turns
      obtain ⟨found, metThere, middle, -⟩ := exists_meeting shortest
      have isPoint := Except.ok.inj (metThere.symm.trans met)
      obtain ⟨a, b, i, j, across, down, total, -, firstHalf, secondHalf⟩ := middle x y isPoint
      obtain ⟨rfl, rfl⟩ : x = a ∧ y = b := by omega
      obtain ⟨csFirst, turnsFirst, edits⟩ := exists_turns_of_path_start firstHalf
      obtain ⟨csSecond, turnsSecond, editsRest⟩ := exists_turns_of_path secondHalf
      have costFirst := ihFirst turnsFirst (by omega)
      have costSecond := ihSecond turnsSecond (by omega)
      rw [cost_append, cost_append, cost_keep, cost_keep, cost_append]
      omega

/-- Between equal sequences there is nothing to change. -/
theorem changes_self (items : List α) : changes items items = items.map .keep := by
  have compares := compares_changes items items
  have cost_le := compares.cost_le (Turns.keep items) (by rw [cost_keep, costLimit]; omega)
  rw [cost_keep, Nat.le_zero] at cost_le
  rw [eq_keep_of_cost_eq_zero cost_le, compares.turns.old_eq]

end

/-! ## Distances -/

section

variable {α : Type} {old new : List α} {cs : List (Change α)}

/-- The least number of removals and additions that turn one sequence into another. -/
noncomputable def distance (old new : List α) : Nat :=
  sInf {n | ∃ cs, Turns old new cs ∧ cost cs = n}

theorem Turns.distance_le (turns : Turns old new cs) : distance old new ≤ cost cs :=
  Nat.sInf_le ⟨cs, turns, rfl⟩

theorem exists_turns_distance (old new : List α) :
    ∃ cs, Turns old new cs ∧ cost cs = distance old new := by
  have some : {n | ∃ cs, Turns old new cs ∧ cost cs = n}.Nonempty :=
    ⟨_, _, Turns.replaced old new, rfl⟩
  exact Nat.sInf_mem some

/-- A script with the least number of changes keeps a longest common subsequence. -/
theorem Turns.length_le_kept {common : List α} (turns : Turns old new cs)
    (least : cost cs = distance old new) (inOld : common.Sublist old)
    (inNew : common.Sublist new) : common.length ≤ (kept cs).length := by
  obtain ⟨cs', turns', total⟩ := exists_turns_of_sublist inOld inNew
  have fewest := turns'.distance_le
  have sum := cost_add_kept cs
  rw [turns.old_eq, turns.new_eq] at sum
  omega

end

/-- Comparing lines changes as few of them as possible, if they are at most 2046 changes apart:
all that are not in a longest common subsequence. -/
theorem cost_changes_eq_distance (old new : List String) (near : distance old new ≤ 2046) :
    cost (changes old new) = distance old new ∧
      ∃ common : List String, common.Sublist old ∧ common.Sublist new ∧
        (∀ other : List String, other.Sublist old → other.Sublist new →
          other.length ≤ common.length) ∧
        cost (changes old new) + 2 * common.length = old.length + new.length := by
  have turns := (compares_changes old new).turns
  obtain ⟨cs, turns', fewest⟩ := exists_turns_distance old new
  have cost_le := (compares_changes old new).cost_le turns' (by rw [costLimit]; omega)
  have least : cost (changes old new) = distance old new :=
    Nat.le_antisymm (fewest ▸ cost_le) turns.distance_le
  have inOld := kept_sublist_old (changes old new)
  have inNew := kept_sublist_new (changes old new)
  have sum := cost_add_kept (changes old new)
  rw [turns.old_eq] at inOld sum
  rw [turns.new_eq] at inNew sum
  exact ⟨least, kept (changes old new), inOld, inNew,
    fun _ => turns.length_le_kept least, sum⟩

theorem cost_changes_eq_distance_of_moved :
    distance ["a", "b", "c"] ["b", "c", "a"] ≤ 2046 ∧
      cost (changes ["a", "b", "c"] ["b", "c", "a"]) = distance ["a", "b", "c"] ["b", "c", "a"] ∧
      ∃ common : List String, common.Sublist ["a", "b", "c"] ∧ common.Sublist ["b", "c", "a"] ∧
        (∀ other : List String, other.Sublist ["a", "b", "c"] → other.Sublist ["b", "c", "a"] →
          other.length ≤ common.length) ∧
        cost (changes ["a", "b", "c"] ["b", "c", "a"]) + 2 * common.length = 6 := by
  have script : Turns ["a", "b", "c"] ["b", "c", "a"]
      [.remove "a", .keep "b", .keep "c", .add "a"] := ⟨rfl, rfl⟩
  have near : distance ["a", "b", "c"] ["b", "c", "a"] ≤ 2046 :=
    script.distance_le.trans (by decide)
  exact ⟨near, cost_changes_eq_distance _ _ near⟩

end EditGuard.Difference
