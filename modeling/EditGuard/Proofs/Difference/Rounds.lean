import EditGuard.Proofs.Difference.Attained

/-!
# The rounds of a search

In every round a search advances on every other diagonal with one more edit.  It leaves the
diagonals at either end once it has run out of the grid there, and keeps the positions that it
has attained on them.  Nothing is lost by this: as long as the searches have not met, the
diagonals that are left lie beyond one on which the grid has been left, and no shortest path
goes over them.  So after each round the search is, on every shortest path, at least as far as
that path has come with as many edits.
-/

namespace EditGuard.Difference

/-! ## Leaving the grid -/

namespace Grid

variable {g : Grid} {least d e : Nat} {r r' : Reach} {k : Int}

/-- On a diagonal a search has used up the first sequence and gone beyond it. -/
def RunsRight (g : Grid) (d : Nat) (r : Reach) (k : Int) : Prop :=
  g.Attains d (r.position k) (r.position k - k) ∧ (g.width : Int) < r.position k

/-- On a diagonal a search has used up the second sequence and gone beyond it. -/
def RunsBelow (g : Grid) (d : Nat) (r : Reach) (k : Int) : Prop :=
  g.Attains d (r.position k) (r.position k - k) ∧ (g.height : Int) < r.position k - k

theorem RunsRight.least_le (shortest : g.Shortest least) (runs : g.RunsRight d r k) :
    (least + g.width + 2 : Int) ≤ d + g.height + k := by
  have least := runs.1.least_of_end shortest (Or.inl (Int.le_of_lt runs.2))
  have beyond := runs.2
  omega

theorem RunsBelow.least_le (shortest : g.Shortest least) (runs : g.RunsBelow d r k) :
    (least + g.height + 2 + k : Int) ≤ d + g.width := by
  have least := runs.1.least_of_end shortest (Or.inr (Int.le_of_lt runs.2))
  have beyond := runs.2
  omega

/-- A shortest path does not turn away from its end more than the rest of its edits can make
good. -/
theorem Waypoint.drift {x y : Nat} (waypoint : g.Waypoint least d x y) :
    d ≤ least ∧ x ≤ y + d ∧ y ≤ x + d ∧ (d + x + y) % 2 = 0 ∧
      g.width + y + d ≤ x + g.height + least ∧ x + g.height + d ≤ g.width + y + least := by
  obtain ⟨e, rfl, first, second⟩ := waypoint
  have drift := first.drift
  have driftLater := second.drift
  omega

end Grid

namespace Search

/-! ## After a round -/

/-- What a search has explored after the rounds up to `d`, if no path has fewer than `least`
edits. -/
structure Explored (g : Grid) (least offset d : Nat) (s : Search) : Prop where
  covers : s.reach.Covers offset
  firstEven : s.skippedFirst % 2 = 0
  lastEven : s.skippedLast % 2 = 0
  /-- Before the second round there is also the position that the first step came from. -/
  attained : ∀ k, g.Attained d s.reach k ∨ d = 0 ∧ k = 1 ∧ s.reach.position k = 0
  /-- Each diagonal of the next round has a neighbour from which it can be entered. -/
  reached : ∀ k : Int, (k + d) % 2 = 1 → s.skippedFirst ≤ k + d + 1 → k + s.skippedLast ≤ d + 1 →
    s.reach.position (k - 1) ≠ -1 ∨ s.reach.position (k + 1) ≠ -1
  waypoints : ∀ x y : Nat, g.Waypoint least d x y → (x : Int) ≤ s.reach.position (x - y)
  lastSkipped : s.skippedLast = 0 ∨
    ∃ k : Int, (k + d) % 2 = 0 ∧ k + s.skippedLast ≤ d + 2 ∧ g.RunsRight d s.reach k
  firstSkipped : s.skippedFirst = 0 ∨
    ∃ k : Int, (k + d) % 2 = 0 ∧ s.skippedFirst ≤ k + d + 2 ∧ g.RunsBelow d s.reach k

variable {g : Grid} {met : Int → Int → Bool} {least offset d : Nat} {before s : Search}
  {k : Int}

namespace Explored

/-- The diagonals left at both ends are apart, so the next round has one at least. -/
theorem skipped_le (explored : before.Explored g least offset d) (shortest : g.Shortest least)
    (undecided : d ≤ least) : before.skippedFirst + before.skippedLast ≤ 2 * d + 2 := by
  rcases explored.firstSkipped with none | ⟨low, -, lowBound, below⟩
  · rcases explored.lastSkipped with noneLast | ⟨high, -, highBound, right⟩
    · omega
    · have drift := right.1.drift
      omega
  · rcases explored.lastSkipped with noneLast | ⟨high, -, highBound, right⟩
    · have drift := below.1.drift
      omega
    · have leastBelow := below.least_le shortest
      have leastRight := right.least_le shortest
      omega

end Explored

/-! ## During a round -/

/-- The diagonals of the round after `d` before diagonal `k`. -/
def InTurn (before : Search) (d : Nat) (k j : Int) : Prop :=
  (j + d) % 2 = 1 ∧ before.skippedFirst ≤ j + d + 1 ∧ j < k

/-- A search in the round after `d` that goes on with diagonal `k`, given how it was before the
round. -/
structure Sweeping (g : Grid) (met : Int → Int → Bool) (offset d : Nat) (s : Search) (k : Int)
    (before : Search) : Prop where
  covers : s.reach.Covers offset
  firstEven : s.skippedFirst % 2 = 0
  lastEven : s.skippedLast % 2 = 0
  turn : (k + d) % 2 = 1
  notBefore : s.skippedFirst ≤ k + d + 1
  moreFirst : before.skippedFirst ≤ s.skippedFirst
  moreLast : before.skippedLast ≤ s.skippedLast
  untouched : ∀ j, ¬before.InTurn d k j → s.reach.position j = before.reach.position j
  attained : ∀ j, before.InTurn d k j →
    g.Attains (d + 1) (s.reach.position j) (s.reach.position j - j)
  further : ∀ j, before.InTurn d k j → before.reach.position (j - 1) + 1 ≤ s.reach.position j ∧
    before.reach.position (j + 1) ≤ s.reach.position j
  stops : ∀ j, before.InTurn d k j → g.Stops j (s.reach.position j)
  unmet : ∀ j, before.InTurn d k j → s.reach.position j ≤ g.width →
    s.reach.position j - j ≤ g.height → met j (s.reach.position j) = false
  lastSkipped : s.skippedLast = before.skippedLast ∨
    ∃ j : Int, before.InTurn d k j ∧ j + s.skippedLast ≤ d + 3 ∧ g.RunsRight (d + 1) s.reach j
  firstSkipped : s.skippedFirst = before.skippedFirst ∨
    ∃ j : Int, before.InTurn d k j ∧ s.skippedFirst ≤ j + d + 3 ∧ g.RunsBelow (d + 1) s.reach j

/-- A round begins with the first diagonal that is not left. -/
theorem Explored.sweeping (explored : before.Explored g least offset d) :
    before.Sweeping g met offset d (-((d + 1 : Nat) : Int) + before.skippedFirst) before := by
  have even := explored.firstEven
  have noTurn (j : Int) :
      ¬before.InTurn d (-((d + 1 : Nat) : Int) + before.skippedFirst) j := by
    unfold InTurn
    omega
  exact
    { covers := explored.covers
      firstEven := explored.firstEven
      lastEven := explored.lastEven
      turn := by omega
      notBefore := by omega
      moreFirst := Nat.le_refl _
      moreLast := Nat.le_refl _
      untouched := fun _ _ => rfl
      attained := fun j turn => absurd turn (noTurn j)
      further := fun j turn => absurd turn (noTurn j)
      stops := fun j turn => absurd turn (noTurn j)
      unmet := fun j turn => absurd turn (noTurn j)
      lastSkipped := .inl rfl
      firstSkipped := .inl rfl }

namespace Sweeping

/-- The neighbours of a diagonal keep what was attained on them before the round. -/
theorem neighbour (sweeping : s.Sweeping g met offset d k before) {j : Int}
    (other : (j + d) % 2 = 0) : s.reach.position j = before.reach.position j :=
  sweeping.untouched j fun turn => by
    have parity := turn.1
    omega

/-- On the next diagonal of a round the search can advance. -/
theorem exists_advance (explored : before.Explored g least offset d)
    (sweeping : s.Sweeping g met offset d k before) (room : d + 1 ≤ offset)
    (goesOn : k + s.skippedLast ≤ d + 1) :
    ∃ x : Int, g.advance s.reach (d + 1 : Nat) k = .ok (x, x - k) ∧
      g.Attains (d + 1) x (x - k) ∧ before.reach.position (k - 1) + 1 ≤ x ∧
      before.reach.position (k + 1) ≤ x ∧ g.Stops k x := by
  have turn := sweeping.turn
  have notBefore := sweeping.notBefore
  have moreFirst := sweeping.moreFirst
  have moreLast := sweeping.moreLast
  have positionBefore := sweeping.neighbour (j := k - 1) (by omega)
  have positionAfter := sweeping.neighbour (j := k + 1) (by omega)
  have attained (j : Int) (other : (j + d) % 2 = 0)
      (same : s.reach.position j = before.reach.position j) : g.Attained d s.reach j := by
    unfold Grid.Attained
    rw [same]
    exact (explored.attained j).resolve_right (by omega)
  have reached := explored.reached k turn (by omega) (by omega)
  rw [← positionBefore, ← positionAfter] at reached ⊢
  exact Grid.exists_advance sweeping.covers room (by omega) (by omega)
    (attained _ (by omega) positionBefore) (attained _ (by omega) positionAfter) reached

/-- After a diagonal on which the searches have not met, the round goes on with the next but
one. -/
theorem next (sweeping : s.Sweeping g met offset d k before) {s' : Search} {x : Int}
    (covers : s'.reach.Covers offset) (here : s'.reach.position k = x)
    (elsewhere : ∀ j, j ≠ k → s'.reach.position j = s.reach.position j)
    (attains : g.Attains (d + 1) x (x - k)) (fromBefore : before.reach.position (k - 1) + 1 ≤ x)
    (fromAfter : before.reach.position (k + 1) ≤ x) (stops : g.Stops k x)
    (goesOn : k + s.skippedLast ≤ d + 1)
    (unmet : x ≤ g.width → x - k ≤ g.height → met k x = false)
    (last : s'.skippedLast = s.skippedLast ∨
      s'.skippedLast = s.skippedLast + 2 ∧ (g.width : Int) < x)
    (first : s'.skippedFirst = s.skippedFirst ∨
      s'.skippedFirst = s.skippedFirst + 2 ∧ (g.height : Int) < x - k) :
    s'.Sweeping g met offset d (k + 2) before := by
  have turn := sweeping.turn
  have notBefore := sweeping.notBefore
  have moreFirst := sweeping.moreFirst
  have moreLast := sweeping.moreLast
  have firstEven := sweeping.firstEven
  have lastEven := sweeping.lastEven
  have inTurn : before.InTurn d (k + 2) k := ⟨turn, by omega, by omega⟩
  have later {j : Int} (turn : before.InTurn d k j) : before.InTurn d (k + 2) j :=
    ⟨turn.1, turn.2.1, Int.lt_trans turn.2.2 (by omega)⟩
  have split {j : Int} (turn : before.InTurn d (k + 2) j) : j = k ∨ before.InTurn d k j := by
    unfold InTurn at turn ⊢
    omega
  have kept {j : Int} (turn : before.InTurn d k j) :
      s'.reach.position j = s.reach.position j :=
    elsewhere j (Int.ne_of_lt turn.2.2)
  refine ⟨covers, by omega, by omega, by omega, by omega, by omega, by omega, ?_, ?_, ?_, ?_, ?_,
    ?_, ?_⟩
  · intro j untouched
    have other : j ≠ k := fun same => untouched (same ▸ inTurn)
    rw [elsewhere j other]
    exact sweeping.untouched j fun turn => untouched (later turn)
  · intro j turn
    rcases split turn with rfl | turn
    · rwa [here]
    · rw [kept turn]
      exact sweeping.attained j turn
  · intro j turn
    rcases split turn with rfl | turn
    · rw [here]
      exact ⟨fromBefore, fromAfter⟩
    · rw [kept turn]
      exact sweeping.further j turn
  · intro j turn
    rcases split turn with rfl | turn
    · rwa [here]
    · rw [kept turn]
      exact sweeping.stops j turn
  · intro j turn
    rcases split turn with rfl | turn
    · rwa [here]
    · rw [kept turn]
      exact sweeping.unmet j turn
  · rcases last with same | ⟨more, beyond⟩
    · rcases sweeping.lastSkipped with unchanged | ⟨j, turn, bound, runs⟩
      · exact .inl (same.trans unchanged)
      · refine .inr ⟨j, later turn, by omega, ?_⟩
        unfold Grid.RunsRight
        rwa [kept turn]
    · refine .inr ⟨k, inTurn, by omega, ?_⟩
      unfold Grid.RunsRight
      rw [here]
      exact ⟨attains, beyond⟩
  · rcases first with same | ⟨more, beyond⟩
    · rcases sweeping.firstSkipped with unchanged | ⟨j, turn, bound, runs⟩
      · exact .inl (same.trans unchanged)
      · refine .inr ⟨j, later turn, by omega, ?_⟩
        unfold Grid.RunsBelow
        rwa [kept turn]
    · refine .inr ⟨k, inTurn, by omega, ?_⟩
      unfold Grid.RunsBelow
      rw [here]
      exact ⟨attains, beyond⟩

end Sweeping

/-- Where a search is found to meet the other one: a position of the grid. -/
def MeetsAt (g : Grid) (met : Int → Int → Bool) (d : Nat) (x y : Int) : Prop :=
  met (x - y) x = true ∧ g.Attains d x y ∧ x ≤ g.width ∧ y ≤ g.height

/-- A round ends after the last of its diagonals, unless the searches meet before. -/
theorem Sweeping.exists_sweep (explored : before.Explored g least offset d)
    (room : d + 1 ≤ offset) {bound : Nat} (enough : (d + 3 : Int) ≤ k + 2 * bound)
    (sweeping : s.Sweeping g met offset d k before) :
    ∃ s' found, sweep g met (d + 1 : Nat) bound k s = .ok (s', found) ∧
      (found = none → ∃ k' : Int, (d + 1 : Int) < k' + s'.skippedLast ∧
        s'.Sweeping g met offset d k' before) ∧
      ∀ x y, found = some (x, y) → MeetsAt g met (d + 1) x y := by
  induction bound generalizing k s with
  | zero =>
      refine ⟨s, none, rfl, fun _ => ⟨k, by omega, sweeping⟩, ?_⟩
      intro x y found
      cases found
  | succ bound ih =>
      by_cases done : ((d + 1 : Nat) : Int) - s.skippedLast < k
      · refine ⟨s, none, ?_, fun _ => ⟨k, by omega, sweeping⟩, ?_⟩
        · rw [sweep, if_pos done]
        · intro x y found
          cases found
      · have goesOn : k + s.skippedLast ≤ d + 1 := by omega
        have moreLast := sweeping.moreLast
        have notBefore := sweeping.notBefore
        obtain ⟨x, advanced, attains, fromBefore, fromAfter, stops⟩ :=
          sweeping.exists_advance explored room goesOn
        obtain ⟨reach, recorded, covers, here, elsewhere⟩ :=
          sweeping.covers.exists_set (k := k) (by omega) (by omega) x
        have next {s' : Search} (same : s'.reach = reach) :=
          sweeping.next (by rwa [same] : s'.reach.Covers offset) (by rwa [same]) (by rwa [same])
            attains fromBefore fromAfter stops goesOn
        rw [sweep, if_neg done, advanced]
        dsimp only [bind, Except.bind]
        rw [recorded]
        dsimp only
        split
        · next beyond =>
            exact ih (by omega) (next rfl (by omega) (.inr ⟨rfl, beyond⟩) (.inl rfl))
        · split
          · next inWidth beyond =>
              exact ih (by omega) (next rfl (by omega) (.inl rfl) (.inr ⟨rfl, beyond⟩))
          · next inWidth inHeight =>
              split
              · next meets =>
                  refine ⟨_, _, rfl, nofun, ?_⟩
                  rintro x' y' ⟨⟩
                  refine ⟨?_, attains, by omega, by omega⟩
                  rwa [Int.sub_sub_self]
              · next apart =>
                  refine ih (by omega) (next rfl ?_ (.inl rfl) (.inl rfl))
                  exact fun _ _ => eq_false_of_ne_true apart

/-! ## What a round explores -/

namespace Sweeping

section Finished

variable (explored : before.Explored g least offset d) (shortest : g.Shortest least)
  (undecided : d ≤ least) (sweeping : s.Sweeping g met offset d k before)
  (finished : (d + 1 : Int) < k + s.skippedLast)

include explored shortest undecided sweeping finished

/-- Diagonals are left at the far end only beyond one where the search has run out of the
grid. -/
theorem exists_runsRight : s.skippedLast = 0 ∨ ∃ j : Int, before.InTurn d k j ∧
    j + s.skippedLast ≤ d + 3 ∧ g.RunsRight (d + 1) s.reach j := by
  rcases sweeping.lastSkipped with unchanged | added
  · rcases explored.lastSkipped with none | ⟨j, parity, bound, runs⟩
    · exact .inl (unchanged.trans none)
    · have drift := runs.1.drift
      have leastRight := runs.least_le shortest
      have turn : before.InTurn d k (j - 1) := by
        rcases explored.firstSkipped with none | ⟨low, -, lowBound, below⟩
        · exact ⟨by omega, by omega, by omega⟩
        · have leastBelow := below.least_le shortest
          exact ⟨by omega, by omega, by omega⟩
      have further := (sweeping.further _ turn).2
      rw [Int.sub_add_cancel] at further
      have beyond := runs.2
      exact .inr ⟨j - 1, turn, by omega, sweeping.attained _ turn, by omega⟩
  · exact .inr added

/-- Diagonals are left at the near end only beyond one where the search has run out of the
grid. -/
theorem exists_runsBelow : s.skippedFirst = 0 ∨ ∃ j : Int, before.InTurn d k j ∧
    s.skippedFirst ≤ j + d + 3 ∧ g.RunsBelow (d + 1) s.reach j := by
  rcases sweeping.firstSkipped with unchanged | added
  · rcases explored.firstSkipped with none | ⟨j, parity, bound, runs⟩
    · exact .inl (unchanged.trans none)
    · have drift := runs.1.drift
      have leastBelow := runs.least_le shortest
      have turn : before.InTurn d k (j + 1) := by
        refine ⟨by omega, by omega, ?_⟩
        rcases exists_runsRight explored shortest undecided sweeping finished with
          none | ⟨high, highTurn, highBound, right⟩
        · omega
        · have leastRight := right.least_le shortest
          have highBefore := highTurn.2.2
          omega
      have further := (sweeping.further _ turn).1
      rw [Int.add_sub_cancel] at further
      have beyond := runs.2
      exact .inr ⟨j + 1, turn, by omega, sweeping.attained _ turn, by omega⟩
  · exact .inr added

/-- A diagonal that the edits can reach is swept, or left because it lies beyond one where the
search has run out of the grid. -/
theorem inTurn_or_beyond {j : Int} (parity : (j + d) % 2 = 1) (lowest : -(d + 1 : Int) ≤ j)
    (highest : j ≤ d + 1) : before.InTurn d k j ∨
      (∃ high < j, g.RunsRight (d + 1) s.reach high) ∨
      ∃ low > j, g.RunsBelow d before.reach low := by
  by_cases early : before.skippedFirst ≤ j + d + 1
  · by_cases late : j < k
    · exact .inl ⟨parity, early, late⟩
    · rcases exists_runsRight explored shortest undecided sweeping finished with
        none | ⟨high, turn, bound, right⟩
      · omega
      · have highBefore := turn.2.2
        exact .inr (.inl ⟨high, by omega, right⟩)
  · rcases explored.firstSkipped with none | ⟨low, lowParity, bound, below⟩
    · omega
    · exact .inr (.inr ⟨low, by omega, below⟩)

/-- A shortest path goes over swept diagonals. -/
theorem inTurn_of_waypoint {x y : Nat} (waypoint : g.Waypoint least (d + 1) x y) :
    before.InTurn d k (x - y) := by
  have drift := waypoint.drift
  rcases inTurn_or_beyond explored shortest undecided sweeping finished (j := x - y) (by omega)
    (by omega) (by omega) with turn | ⟨high, beyond, right⟩ | ⟨low, beyond, below⟩
  · exact turn
  · have leastRight := right.least_le shortest
    omega
  · have leastBelow := below.least_le shortest
    omega

/-- On a shortest path the search has come at least as far as that path with as many edits. -/
theorem le_position_of_waypoint {x y : Nat} (waypoint : g.Waypoint least (d + 1) x y) :
    (x : Int) ≤ s.reach.position (x - y) := by
  have turn := inTurn_of_waypoint explored shortest undecided sweeping finished waypoint
  obtain ⟨e, total, first, second⟩ := waypoint
  obtain ⟨a, b, a', b', earlier, free, edit⟩ := first.exists_lastEdit
  have earlierWaypoint : g.Waypoint least d a b := by
    refine ⟨1 + e, by omega, earlier, ?_⟩
    have bounds := free.bounds
    have step : g.Path 1 a b a' b' := by
      rcases edit with ⟨rfl, rfl⟩ | ⟨rfl, rfl⟩
      · exact .right (.here (by omega) (by omega))
      · exact .down (.here (by omega) (by omega))
    exact (step.trans free).trans second
  have known := explored.waypoints a b earlierWaypoint
  have drift := free.drift
  have further := sweeping.further _ turn
  refine sweeping.stops _ turn a' b' x y free (by omega) ?_
  rcases edit with ⟨across, same⟩ | ⟨same, down⟩
  · rw [show (a : Int) - b = (x : Int) - y - 1 by omega] at known
    omega
  · rw [show (a : Int) - b = (x : Int) - y + 1 by omega] at known
    omega

/-- The position that the first step came from is swept in the second round. -/
theorem attained_after (j : Int) : g.Attained (d + 1) s.reach j := by
  by_cases turn : before.InTurn d k j
  · exact .inr (sweeping.attained j turn)
  · have same := sweeping.untouched j turn
    unfold Grid.Attained
    rw [same]
    rcases explored.attained j with (none | attains) | ⟨rfl, rfl, -⟩
    · exact .inl none
    · exact .inr (attains.mono (Nat.le_succ d))
    · exfalso
      have drift := shortest.path.drift
      rcases inTurn_or_beyond explored shortest undecided sweeping finished (j := 1) (by omega)
        (by omega) (by omega) with inTurn | ⟨high, beyond, right⟩ | ⟨low, beyond, below⟩
      · exact turn inTurn
      · have leastRight := right.least_le shortest
        omega
      · have leastBelow := below.least_le shortest
        omega

/-- Each diagonal of the next round can be entered from a swept one. -/
theorem reached_after {j : Int} (parity : (j + (d + 1 : Nat)) % 2 = 1)
    (notBefore : s.skippedFirst ≤ j + (d + 1 : Nat) + 1)
    (notAfter : j + s.skippedLast ≤ (d + 1 : Nat) + 1) :
    s.reach.position (j - 1) ≠ -1 ∨ s.reach.position (j + 1) ≠ -1 := by
  have known {j : Int} (turn : before.InTurn d k j) : s.reach.position j ≠ -1 := by
    have drift := (sweeping.attained j turn).drift
    omega
  have apart := explored.skipped_le shortest undecided
  have firstEven := explored.firstEven
  have moreFirst := sweeping.moreFirst
  have even := sweeping.firstEven
  by_cases early : before.skippedFirst ≤ j + d
  · exact .inl (known ⟨by omega, by omega, by omega⟩)
  · refine .inr (known ⟨by omega, by omega, ?_⟩)
    rcases sweeping.lastSkipped with unchanged | ⟨high, turn, -, -⟩
    · omega
    · have highBefore := turn.2.2
      have highFirst := turn.2.1
      omega

/-- A finished round has explored one edit more. -/
theorem explored_after : s.Explored g least offset (d + 1) where
  covers := sweeping.covers
  firstEven := sweeping.firstEven
  lastEven := sweeping.lastEven
  attained j := .inl (attained_after explored shortest undecided sweeping finished j)
  reached _ := reached_after explored shortest undecided sweeping finished
  waypoints _ _ := le_position_of_waypoint explored shortest undecided sweeping finished
  lastSkipped := by
    refine (exists_runsRight explored shortest undecided sweeping finished).imp_right ?_
    rintro ⟨j, turn, bound, runs⟩
    have parity := turn.1
    exact ⟨j, by omega, by omega, runs⟩
  firstSkipped := by
    refine (exists_runsBelow explored shortest undecided sweeping finished).imp_right ?_
    rintro ⟨j, turn, bound, runs⟩
    have parity := turn.1
    exact ⟨j, by omega, by omega, runs⟩

end Finished

end Sweeping

/-- One round more: either the searches are found to meet at a position that is attained, or
one edit more has been explored and they do not meet on a shortest path. -/
theorem Explored.exists_round (explored : s.Explored g least offset d)
    (shortest : g.Shortest least) (undecided : d ≤ least) (room : d + 1 ≤ offset)
    (met : Int → Int → Bool) :
    ∃ s' found, s.round g met (d + 1) = .ok (s', found) ∧
      (found = none → s'.Explored g least offset (d + 1) ∧
        ∀ x y : Nat, g.Waypoint least (d + 1) x y →
          met (x - y) (s'.reach.position (x - y)) = false) ∧
      ∀ x y, found = some (x, y) → MeetsAt g met (d + 1) x y := by
  have begun : s.Sweeping g met offset d (-((d + 1 : Nat) : Int) + s.skippedFirst) s :=
    explored.sweeping
  have enough :
      (d + 3 : Int) ≤ -((d + 1 : Nat) : Int) + s.skippedFirst + 2 * (d + 1 + 1 : Nat) := by
    omega
  obtain ⟨s', found, swept, unfound, meets⟩ := begun.exists_sweep explored room enough
  refine ⟨s', found, swept, fun none => ?_, meets⟩
  obtain ⟨k, finished, sweeping⟩ := unfound none
  refine ⟨sweeping.explored_after explored shortest undecided finished, ?_⟩
  intro x y waypoint
  have turn := sweeping.inTurn_of_waypoint explored shortest undecided finished waypoint
  have drift := waypoint.drift
  have attains := sweeping.attained _ turn
  -- What has left the grid is not on a shortest path.
  refine sweeping.unmet _ turn ?_ ?_
  · refine Int.not_lt.mp fun beyond => ?_
    have leastRight := Grid.RunsRight.least_le shortest ⟨attains, beyond⟩
    omega
  · refine Int.not_lt.mp fun beyond => ?_
    have leastBelow := Grid.RunsBelow.least_le shortest ⟨attains, beyond⟩
    omega

end Search

end EditGuard.Difference
