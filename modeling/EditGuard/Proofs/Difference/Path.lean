import Mathlib.Data.Nat.Find
import EditGuard.Difference.Snake

/-!
# Paths through a grid

A path leads from one position of a grid to another, by edits to the right and downwards and by
free diagonal steps over equal items.  The number of its edits bounds how far it leaves its
diagonal.  Paths can be joined, cut after any number of edits and read from the end, and a path
that may start further along both sequences needs no more edits than the change of the diagonal
costs.
-/

namespace EditGuard.Difference.Grid

/-- A path from a position to another with a number of edits. -/
inductive Path (g : Grid) : Nat → Nat → Nat → Nat → Nat → Prop where
  | here {x y : Nat} (inWidth : x ≤ g.width) (inHeight : y ≤ g.height) : Path g 0 x y x y
  | right {d x y x' y' : Nat} (rest : Path g d (x + 1) y x' y') : Path g (d + 1) x y x' y'
  | down {d x y x' y' : Nat} (rest : Path g d x (y + 1) x' y') : Path g (d + 1) x y x' y'
  | diagonal {d x y x' y' : Nat} (same : g.same x y = true)
      (rest : Path g d (x + 1) (y + 1) x' y') : Path g d x y x' y'

variable {g : Grid} {d e x y x' y' : Nat}

namespace Path

/-! ## Where a path leads -/

/-- A path goes forward in both sequences and stays in the grid. -/
theorem bounds (path : g.Path d x y x' y') :
    x ≤ x' ∧ y ≤ y' ∧ x' ≤ g.width ∧ y' ≤ g.height := by
  induction path with
  | here inWidth inHeight => exact ⟨Nat.le_refl _, Nat.le_refl _, inWidth, inHeight⟩
  | right rest ih => omega
  | down rest ih => omega
  | diagonal same rest ih => omega

/-- Each edit changes the diagonal by one. -/
theorem drift (path : g.Path d x y x' y') :
    x' + y ≤ x + y' + d ∧ x + y' ≤ x' + y + d ∧ (d + x + y + x' + y') % 2 = 0 := by
  induction path with
  | here => omega
  | right rest ih => omega
  | down rest ih => omega
  | diagonal same rest ih => omega

/-- What a path without edits goes over are equal items. -/
theorem same_of_free {i : Nat} (path : g.Path 0 x y x' y') (before : x + i < x') :
    g.same (x + i) (y + i) = true := by
  generalize free : 0 = d at path
  induction path generalizing i with
  | here => omega
  | right => contradiction
  | down => contradiction
  | diagonal same rest ih =>
      cases i with
      | zero => exact same
      | succ i =>
          have later := ih (i := i) (by omega) free
          rw [Nat.add_right_comm _ 1 i, Nat.add_right_comm _ 1 i] at later
          exact later

/-! ## Joining and cutting -/

theorem trans {x'' y'' : Nat} (first : g.Path d x y x' y') (second : g.Path e x' y' x'' y'') :
    g.Path (d + e) x y x'' y'' := by
  induction first with
  | here => rwa [Nat.zero_add]
  | right rest ih =>
      rw [Nat.add_right_comm]
      exact .right (ih second)
  | down rest ih =>
      rw [Nat.add_right_comm]
      exact .down (ih second)
  | diagonal same rest ih => exact .diagonal same (ih second)

theorem rightward {n : Nat} (inWidth : x + n ≤ g.width) (inHeight : y ≤ g.height) :
    g.Path n x y (x + n) y := by
  induction n generalizing x with
  | zero => exact .here inWidth inHeight
  | succ n ih =>
      have rest := ih (x := x + 1) (by omega)
      rw [Nat.add_right_comm] at rest
      exact .right rest

theorem downward {n : Nat} (inWidth : x ≤ g.width) (inHeight : y + n ≤ g.height) :
    g.Path n x y x (y + n) := by
  induction n generalizing y with
  | zero => exact .here inWidth inHeight
  | succ n ih =>
      have rest := ih (y := y + 1) (by omega)
      rw [Nat.add_right_comm] at rest
      exact .down rest

/-- From anywhere the end can be reached without going over equal items. -/
theorem toEnd (inWidth : x ≤ g.width) (inHeight : y ≤ g.height) :
    g.Path (g.width - x + (g.height - y)) x y g.width g.height := by
  have across := rightward (g := g) (x := x) (n := g.width - x) (by omega) inHeight
  have down := downward (y := y) (n := g.height - y) (Nat.le_refl g.width) (by omega)
  rw [Nat.add_sub_cancel' inWidth] at across
  rw [Nat.add_sub_cancel' inHeight] at down
  exact across.trans down

/-- A path can be cut after any number of its edits. -/
theorem exists_cut (path : g.Path (d + e) x y x' y') :
    ∃ a b, g.Path d x y a b ∧ g.Path e a b x' y' := by
  generalize total : d + e = n at path
  induction path generalizing d with
  | @here x y inWidth inHeight =>
      obtain ⟨rfl, rfl⟩ : d = 0 ∧ e = 0 := by omega
      exact ⟨x, y, .here inWidth inHeight, .here inWidth inHeight⟩
  | @right n x y x' y' rest ih =>
      cases d with
      | zero =>
          have start := rest.bounds
          rw [show e = n + 1 by omega]
          exact ⟨x, y, .here (by omega) (by omega), .right rest⟩
      | succ d =>
          obtain ⟨a, b, first, second⟩ := ih (d := d) (by omega)
          exact ⟨a, b, .right first, second⟩
  | @down n x y x' y' rest ih =>
      cases d with
      | zero =>
          have start := rest.bounds
          rw [show e = n + 1 by omega]
          exact ⟨x, y, .here (by omega) (by omega), .down rest⟩
      | succ d =>
          obtain ⟨a, b, first, second⟩ := ih (d := d) (by omega)
          exact ⟨a, b, .down first, second⟩
  | diagonal same rest ih =>
      obtain ⟨a, b, first, second⟩ := ih total
      exact ⟨a, b, .diagonal same first, second⟩

/-- The last edit of a path comes from a neighbouring diagonal, and equal items follow it. -/
theorem exists_lastEdit (path : g.Path (d + 1) x y x' y') :
    ∃ a b a' b', g.Path d x y a b ∧ g.Path 0 a' b' x' y' ∧
      (a' = a + 1 ∧ b' = b ∨ a' = a ∧ b' = b + 1) := by
  generalize edits : d + 1 = n at path
  induction path generalizing d with
  | here => contradiction
  | @right n x y x' y' rest ih =>
      cases d with
      | zero =>
          obtain rfl : n = 0 := by omega
          have start := rest.bounds
          exact ⟨x, y, x + 1, y, .here (by omega) (by omega), rest, .inl ⟨rfl, rfl⟩⟩
      | succ d =>
          obtain ⟨a, b, a', b', first, last, edit⟩ := ih (d := d) (by omega)
          exact ⟨a, b, a', b', .right first, last, edit⟩
  | @down n x y x' y' rest ih =>
      cases d with
      | zero =>
          obtain rfl : n = 0 := by omega
          have start := rest.bounds
          exact ⟨x, y, x, y + 1, .here (by omega) (by omega), rest, .inr ⟨rfl, rfl⟩⟩
      | succ d =>
          obtain ⟨a, b, a', b', first, last, edit⟩ := ih (d := d) (by omega)
          exact ⟨a, b, a', b', .down first, last, edit⟩
  | diagonal same rest ih =>
      obtain ⟨a, b, a', b', first, last, edit⟩ := ih edits
      exact ⟨a, b, a', b', .diagonal same first, last, edit⟩

/-! ## Reading from the end -/

/-- A path from the end, given how equal items look from there. -/
theorem backwards {h : Grid} (width : h.width = g.width) (height : h.height = g.height)
    (alike : ∀ x < g.width, ∀ y < g.height,
      h.same (g.width - x - 1) (g.height - y - 1) = g.same x y)
    (path : g.Path d x y x' y') :
    h.Path d (g.width - x') (g.height - y') (g.width - x) (g.height - y) := by
  induction path with
  | here inWidth inHeight => exact .here (by omega) (by omega)
  | @right d x y x' y' rest ih =>
      have bounds := rest.bounds
      have last := rightward (g := h) (x := g.width - (x + 1)) (y := g.height - y) (n := 1)
        (by omega) (by omega)
      rw [show g.width - (x + 1) + 1 = g.width - x by omega] at last
      exact ih.trans last
  | @down d x y x' y' rest ih =>
      have bounds := rest.bounds
      have last := downward (g := h) (x := g.width - x) (y := g.height - (y + 1)) (n := 1)
        (by omega) (by omega)
      rw [show g.height - (y + 1) + 1 = g.height - y by omega] at last
      exact ih.trans last
  | @diagonal d x y x' y' same rest ih =>
      have bounds := rest.bounds
      have last : h.Path 0 (g.width - (x + 1)) (g.height - (y + 1)) (g.width - x)
          (g.height - y) := by
        refine .diagonal ?_ ?_
        · exact (alike x (by omega) y (by omega)).trans same
        · rw [show g.width - (x + 1) + 1 = g.width - x by omega,
            show g.height - (y + 1) + 1 = g.height - y by omega]
          exact .here (by omega) (by omega)
      exact ih.trans last

theorem reversed (path : g.Path d x y x' y') :
    g.reversed.Path d (g.width - x') (g.height - y') (g.width - x) (g.height - y) := by
  refine path.backwards rfl rfl fun x inWidth y inHeight => ?_
  have width : g.width - (g.width - x - 1) - 1 = x := by omega
  have height : g.height - (g.height - y - 1) - 1 = y := by omega
  exact congrArg₂ g.same width height

theorem of_reversed (path : g.reversed.Path d x y x' y') :
    g.Path d (g.width - x') (g.height - y') (g.width - x) (g.height - y) :=
  backwards (g := g.reversed) (h := g) rfl rfl (fun _ _ _ _ => rfl) path

/-! ## Starting further along -/

theorem righter (path : g.Path d x y x' y') (before : x < x') :
    ∃ e, e ≤ d + 1 ∧ g.Path e (x + 1) y x' y' := by
  induction path with
  | here => omega
  | @right d x y x' y' rest ih => exact ⟨d, by omega, rest⟩
  | down rest ih =>
      obtain ⟨e, few, further⟩ := ih before
      exact ⟨e + 1, by omega, .down further⟩
  | @diagonal d x y x' y' same rest ih => exact ⟨d + 1, by omega, .down rest⟩

theorem lower (path : g.Path d x y x' y') (before : y < y') :
    ∃ e, e ≤ d + 1 ∧ g.Path e x (y + 1) x' y' := by
  induction path with
  | here => omega
  | right rest ih =>
      obtain ⟨e, few, further⟩ := ih before
      exact ⟨e + 1, by omega, .right further⟩
  | @down d x y x' y' rest ih => exact ⟨d, by omega, rest⟩
  | @diagonal d x y x' y' same rest ih => exact ⟨d + 1, by omega, .right rest⟩

/-- Further along a diagonal there is not more to edit. -/
theorem along (path : g.Path d x y x' y') (inWidth : x < x') (inHeight : y < y') :
    ∃ e, e ≤ d ∧ g.Path e (x + 1) (y + 1) x' y' := by
  cases path with
  | here => omega
  | right rest => exact rest.lower inHeight
  | down rest => exact rest.righter inWidth
  | diagonal same rest => exact ⟨d, Nat.le_refl d, rest⟩

/-- A later start saves no less than what it costs to change the diagonal. -/
theorem exists_later {a b : Nat} (path : g.Path d x y x' y') (right : x ≤ a) (down : y ≤ b)
    (inWidth : a ≤ x') (inHeight : b ≤ y') :
    ∃ e, e ≤ d + (a - x - (b - y)) + (b - y - (a - x)) ∧ g.Path e a b x' y' := by
  generalize steps : a - x + (b - y) = n
  induction n using Nat.strongRecOn generalizing d x y with
  | ind n ih =>
      rcases Nat.eq_or_lt_of_le right with rfl | further
      · rcases Nat.eq_or_lt_of_le down with rfl | further
        · exact ⟨d, by omega, path⟩
        · obtain ⟨e, few, next⟩ := path.lower (by omega)
          obtain ⟨e', fewer, last⟩ := ih _ (by omega) next right further rfl
          exact ⟨e', by omega, last⟩
      · rcases Nat.eq_or_lt_of_le down with rfl | furtherDown
        · obtain ⟨e, few, next⟩ := path.righter (by omega)
          obtain ⟨e', fewer, last⟩ := ih _ (by omega) next further down rfl
          exact ⟨e', by omega, last⟩
        · obtain ⟨e, few, next⟩ := path.along (by omega) (by omega)
          obtain ⟨e', fewer, last⟩ := ih _ (by omega) next further furtherDown rfl
          exact ⟨e', by omega, last⟩

end Path

/-! ## Shortest paths -/

/-- The least number of edits of a path through the grid. -/
structure Shortest (g : Grid) (d : Nat) : Prop where
  path : g.Path d 0 0 g.width g.height
  least : ∀ e, g.Path e 0 0 g.width g.height → d ≤ e

theorem exists_shortest (g : Grid) : ∃ d, g.Shortest d := by
  classical
  have some : ∃ d, g.Path d 0 0 g.width g.height := ⟨_, .toEnd (Nat.zero_le _) (Nat.zero_le _)⟩
  exact ⟨Nat.find some, Nat.find_spec some, fun e path => Nat.find_min' some path⟩

theorem Shortest.reversed (shortest : g.Shortest d) : g.reversed.Shortest d where
  path := by
    have path := shortest.path.reversed
    rwa [Nat.sub_self, Nat.sub_self] at path
  least e path := by
    have path := path.of_reversed
    rw [Nat.sub_zero, Nat.sub_zero] at path
    refine shortest.least e ?_
    rwa [show g.width - g.reversed.width = 0 from Nat.sub_self _,
      show g.height - g.reversed.height = 0 from Nat.sub_self _] at path

/-- A position on a shortest path, after a number of its edits. -/
def Waypoint (g : Grid) (total d x y : Nat) : Prop :=
  ∃ e, d + e = total ∧ g.Path d 0 0 x y ∧ g.Path e x y g.width g.height

theorem Waypoint.reversed {total : Nat} (waypoint : g.Waypoint total d x y) (rest : d + e = total) :
    g.reversed.Waypoint total e (g.width - x) (g.height - y) := by
  obtain ⟨e', same, first, second⟩ := waypoint
  obtain rfl : e = e' := by omega
  have firstBack := second.reversed
  have secondBack := first.reversed
  rw [Nat.sub_self, Nat.sub_self] at firstBack
  exact ⟨d, by omega, firstBack, secondBack⟩

theorem Shortest.exists_waypoint (shortest : g.Shortest (d + e)) :
    ∃ x y, g.Waypoint (d + e) d x y := by
  obtain ⟨x, y, first, second⟩ := shortest.path.exists_cut
  exact ⟨x, y, e, rfl, first, second⟩

end EditGuard.Difference.Grid
