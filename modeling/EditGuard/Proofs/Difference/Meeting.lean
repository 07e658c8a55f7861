import EditGuard.Proofs.Difference.Rounds

/-!
# The searches meet in the middle

Two searches that pass each other on a diagonal are joined by a path with as many edits as both
have made, and the searches pass each other on a shortest path as soon as both together have
made its edits.  So they meet where a shortest path is split into halves, in the grid, and they
do not look outside before.
-/

namespace EditGuard.Difference

namespace Grid

variable {g : Grid} {least d e : Nat} {x y x' y' : Int}

/-- A position that splits a shortest path into halves, of which the first may have one edit
more. -/
def Middle (g : Grid) (least : Nat) (x y : Int) : Prop :=
  ∃ a b i j : Nat, x = a ∧ y = b ∧ i + j = least ∧ (i = j ∨ i = j + 1) ∧
    g.Path i 0 0 a b ∧ g.Path j a b g.width g.height

/-- From a position that a search from the end has passed, the end can be reached with the
edits of that search. -/
theorem Attains.exists_rest (back : g.reversed.Attains e x' y') {a b : Nat}
    (inWidth : a ≤ g.width) (inHeight : b ≤ g.height)
    (diagonal : (a : Int) - b = g.width - g.height - (x' - y')) (passed : g.width - x' ≤ a) :
    ∃ j ≤ e, g.Path j a b g.width g.height := by
  obtain ⟨u, v, i, rfl, rfl, path, few⟩ := back
  have path := path.of_reversed
  rw [Nat.sub_zero, Nat.sub_zero] at path
  simp only [reversed] at path few
  obtain ⟨j, fewer, rest⟩ := path.exists_later (a := a) (b := b) (by omega) (by omega) inWidth
    inHeight
  exact ⟨j, by omega, rest⟩

/-- Where two searches have passed each other with no more edits than a shortest path has,
they are in the middle of one. -/
theorem middle_of_passed (shortest : g.Shortest least) (attains : g.Attains d x y)
    (inWidth : x ≤ g.width) (inHeight : y ≤ g.height) (back : g.reversed.Attains e x' y')
    (diagonal : x - y = g.width - g.height - (x' - y')) (passed : g.width - x' ≤ x)
    (few : d + e ≤ least) (half : d = e ∨ d = e + 1) : g.Middle least x y := by
  obtain ⟨a, b, i, rfl, rfl, path, edits⟩ := attains
  rw [Nat.min_eq_left (by omega), Nat.min_eq_left (by omega)] at path
  obtain ⟨j, fewer, rest⟩ :=
    back.exists_rest (a := a) (b := b) (by omega) (by omega) diagonal passed
  have least := shortest.least _ (path.trans rest)
  exact ⟨a, b, i, j, rfl, rfl, by omega, by omega, path, rest⟩

theorem Shortest.parity (shortest : g.Shortest least) :
    (least + g.width + g.height) % 2 = 0 := by
  have drift := shortest.path.drift
  omega

end Grid

namespace Search

variable {g : Grid} {least offset d : Nat} {s forward backward : Search}

theorem passed_iff {other : Reach} {k x : Int} :
    passed g other k x = true ↔ other.position (g.width - g.height - k) ≠ -1 ∧
      g.width - other.position (g.width - g.height - k) ≤ x := by
  unfold passed Reach.position
  cases other.get? (g.width - g.height - k) with
  | none => simp
  | some x' => simp

/-! ## The first round -/

/-- A search before round `d`. -/
inductive Awaits (g : Grid) (least offset : Nat) : Nat → Search → Prop where
  | start : Awaits g least offset 0 (Search.start offset)
  | explored {d : Nat} {s : Search} (explored : s.Explored g least offset d) :
      Awaits g least offset (d + 1) s

/-- What a round is about to find: a position where the searches meet, or what one edit more
explores, without a meeting on a shortest path. -/
def Finds (g : Grid) (met : Int → Int → Bool) (least offset d : Nat) (s : Search)
    (found : Option (Int × Int)) : Prop :=
  (found = none → s.Explored g least offset d ∧ ∀ x y : Nat, g.Waypoint least d x y →
    met (x - y) (s.reach.position (x - y)) = false) ∧
  ∀ x y, found = some (x, y) → MeetsAt g met d x y

/-- Without an edit a search explores the diagonal on which it starts. -/
theorem explored_first {reach : Reach} {x : Int} (covers : reach.Covers offset)
    (here : reach.position 0 = x)
    (elsewhere : ∀ k, k ≠ 0 → reach.position k = (Reach.start offset).position k)
    (attains : g.Attains 0 x x) (stops : g.Stops 0 x) :
    Explored g least offset 0 ⟨reach, 0, 0⟩ := by
  have reached : reach.position 0 ≠ -1 := by
    have drift := attains.drift
    omega
  refine ⟨covers, rfl, rfl, ?_, ?_, ?_, .inl rfl, .inl rfl⟩
  · intro k
    by_cases first : k = 0
    · refine .inl (.inr ?_)
      rw [first, here, Int.sub_zero]
      exact attains
    · have same := elsewhere k first
      rw [Reach.position_start] at same
      split at same
      · next sentinel => exact .inr ⟨rfl, sentinel, same⟩
      · exact .inl (.inl same)
  · intro k odd first last
    dsimp only at first last ⊢
    obtain rfl | rfl : k = 1 ∨ k = -1 := by omega
    · exact .inl reached
    · exact .inr reached
  · intro a b waypoint
    have drift := waypoint.drift
    obtain ⟨e, -, path, -⟩ := waypoint
    dsimp only
    rw [show (a : Int) - b = 0 by omega, here]
    exact stops 0 0 a b path rfl attains.drift.1

theorem exists_firstRound (g : Grid) (met : Int → Int → Bool) (least offset : Nat) :
    ∃ s found, (start offset).round g met 0 = .ok (s, found) ∧
      Finds g met least offset 0 s found := by
  have position (k : Int) := Reach.position_start offset k
  have origin : (Reach.start offset).position 1 = 0 := by rw [position, if_pos rfl]
  obtain ⟨x, slid, attains, -, stops⟩ := (Grid.Attains.start g).exists_slide
  rw [Int.sub_zero] at slid attains stops
  rw [Int.sub_zero] at slid attains
  have inGrid : x ≤ g.width ∧ x ≤ g.height := by
    obtain ⟨a, b, i, across, down, path, few⟩ := attains
    omega
  have advanced : g.advance (Reach.start offset) (0 : Nat) 0 = .ok (x, x) := by
    have first := (Reach.covers_start offset).get_eq (k := 0 + 1) (by omega) (by omega)
    rw [Int.zero_add, origin] at first
    rw [Grid.advance, if_pos (by omega), Int.zero_add, first]
    exact slid
  obtain ⟨reach, recorded, covers, here, elsewhere⟩ :=
    (Reach.covers_start offset).exists_set (k := 0) (by omega) (by omega) x
  have ran : (start offset).round g met 0 =
      if met 0 x then .ok (⟨reach, 0, 0⟩, some (x, x)) else .ok (⟨reach, 0, 0⟩, none) := by
    show sweep g met (0 : Nat) 1 0 ⟨.start offset, 0, 0⟩ = _
    rw [sweep, if_neg (by simp), advanced]
    dsimp only [bind, Except.bind]
    rw [recorded]
    dsimp only
    rw [if_neg (by omega), if_neg (by omega)]
    rfl
  by_cases meets : met 0 x = true
  · refine ⟨⟨reach, 0, 0⟩, some (x, x), by rw [ran, if_pos meets], ?_, ?_⟩
    · rintro ⟨⟩
    · rintro _ _ ⟨⟩
      refine ⟨?_, attains, inGrid.1, inGrid.2⟩
      rwa [Int.sub_self]
  · refine ⟨⟨reach, 0, 0⟩, none, by rw [ran, if_neg meets], fun _ => ⟨?_, ?_⟩, ?_⟩
    · exact explored_first covers here elsewhere attains stops
    · intro a b waypoint
      have drift := waypoint.drift
      rw [show (a : Int) - b = 0 by omega, here]
      exact eq_false_of_ne_true meets
    · rintro _ _ ⟨⟩

/-- Each round finds something, as long as the earlier ones are not too many. -/
theorem Awaits.exists_round (awaits : s.Awaits g least offset d) (shortest : g.Shortest least)
    (undecided : d ≤ least + 1) (room : d ≤ offset) (met : Int → Int → Bool) :
    ∃ s' found, s.round g met d = .ok (s', found) ∧ Finds g met least offset d s' found := by
  cases awaits with
  | start => exact exists_firstRound g met least offset
  | explored explored => exact explored.exists_round shortest (by omega) room met

/-- What a search has attained before a round.  Before the first round there is only the
position that its first step comes from. -/
theorem Awaits.attained (awaits : s.Awaits g least offset d) {k : Int}
    (reached : s.reach.position k ≠ -1) :
    (∃ e, e + 1 = d ∧ g.Attains e (s.reach.position k) (s.reach.position k - k)) ∨
      k = 1 ∧ s.reach.position k = 0 := by
  cases awaits with
  | start =>
      right
      rw [show (Search.start offset).reach = .start offset from rfl, Reach.position_start]
        at reached ⊢
      split at reached
      · next first => exact ⟨first, if_pos first⟩
      · contradiction
  | @explored d s explored =>
      rcases explored.attained k with attained | ⟨-, sentinel⟩
      · exact .inl ⟨d, rfl, attained.resolve_left reached⟩
      · exact .inr sentinel

/-! ## Both searches -/

section Both

variable (shortest : g.Shortest least)

include shortest

/-- If the lengths differ by an odd number, then the search from the start meets the one from
the end, which has one edit less, in the middle of a shortest path. -/
theorem middle_of_forward {x y : Int}
    (awaits : backward.Awaits g.reversed least offset d) (undecided : 2 * d ≤ least + 1)
    (meets : MeetsAt g (fun k x => passed g backward.reach k x) d x y) :
    g.Middle least x y := by
  obtain ⟨met, attains, inWidth, inHeight⟩ := meets
  obtain ⟨reached, passes⟩ := passed_iff.mp met
  rcases awaits.attained reached with ⟨e, rfl, back⟩ | ⟨sentinel, none⟩
  · exact Grid.middle_of_passed shortest attains inWidth inHeight back (by omega) passes (by omega)
      (.inr rfl)
  · omega

/-- If the lengths differ by an even number, then the search from the end meets the one from the
start in the middle of a shortest path: in the grid, though the position is what the other search
has kept. -/
theorem middle_of_backward {x y : Int} (explored : forward.Explored g least offset d)
    (undecided : 2 * d ≤ least)
    (meets : MeetsAt g.reversed (fun k x => passed g forward.reach k x) d x y) :
    forward.reach.position (g.width - g.height - (x - y)) ≠ -1 ∧
      g.Middle least (forward.reach.position (g.width - g.height - (x - y)))
        (forward.reach.position (g.width - g.height - (x - y)) -
          (g.width - g.height - (x - y))) := by
  obtain ⟨met, back, inWidth, inHeight⟩ := meets
  obtain ⟨reached, passes⟩ := passed_iff.mp met
  refine ⟨reached, ?_⟩
  have drift := back.drift
  simp only [Grid.reversed] at inWidth inHeight
  rcases explored.attained (g.width - g.height - (x - y)) with (none | attains) | ⟨rfl, one, zero⟩
  · exact absurd none reached
  · have notRight : ¬g.RunsRight d forward.reach (g.width - g.height - (x - y)) := by
      intro runs
      have leastRight := runs.least_le shortest
      omega
    have notBelow : ¬g.RunsBelow d forward.reach (g.width - g.height - (x - y)) := by
      intro runs
      have leastBelow := runs.least_le shortest
      omega
    exact Grid.middle_of_passed shortest attains
      (Int.not_lt.mp fun beyond => notRight ⟨attains, beyond⟩)
      (Int.not_lt.mp fun beyond => notBelow ⟨attains, beyond⟩) back (by omega) (by omega) (by omega)
      (.inl rfl)
  · omega

omit shortest in
/-- On a shortest path the searches pass each other once they have made its edits together. -/
theorem passed_of_waypoint {e x y : Nat} (explored : forward.Explored g least offset d)
    (exploredBack : backward.Explored g.reversed least offset e) (total : d + e = least)
    (waypoint : g.Waypoint least d x y) :
    passed g backward.reach (x - y) (forward.reach.position (x - y)) = true ∧
      passed g forward.reach ((g.width - x : Nat) - (g.height - y : Nat))
        (backward.reach.position ((g.width - x : Nat) - (g.height - y : Nat))) = true := by
  have forwardLater := explored.waypoints x y waypoint
  have backwardLater := exploredBack.waypoints _ _ (waypoint.reversed total)
  obtain ⟨-, -, path, -⟩ := waypoint
  have bounds := path.bounds
  have acrossBack :
      (g.width : Int) - g.height - (x - y) = (g.width - x : Nat) - (g.height - y : Nat) := by
    omega
  have across : (g.width : Int) - g.height - ((g.width - x : Nat) - (g.height - y : Nat)) =
      x - y := by
    omega
  rw [passed_iff, passed_iff, acrossBack, across]
  exact ⟨⟨by omega, by omega⟩, ⟨by omega, by omega⟩⟩

/-- If the search from the start does not meet the one from the end, then no shortest path has
as many edits as both have made. -/
theorem ne_of_forward_apart (explored : forward.Explored g least offset d)
    (awaits : backward.Awaits g.reversed least offset d)
    (apart : ∀ x y : Nat, g.Waypoint least d x y →
      passed g backward.reach (x - y) (forward.reach.position (x - y)) = false) :
    least + 1 ≠ 2 * d := by
  intro total
  cases awaits with
  | start => omega
  | @explored e _ exploredBack =>
      obtain rfl : least = e + 1 + e := by omega
      obtain ⟨x, y, waypoint⟩ := shortest.exists_waypoint
      have passes := (passed_of_waypoint explored exploredBack rfl waypoint).1
      rw [apart x y waypoint] at passes
      cases passes

/-- If the search from the end does not meet the one from the start, then no shortest path has
as many edits as both have made. -/
theorem ne_of_backward_apart (explored : forward.Explored g least offset d)
    (exploredBack : backward.Explored g.reversed least offset d)
    (apart : ∀ x y : Nat, g.reversed.Waypoint least d x y →
      passed g forward.reach (x - y) (backward.reach.position (x - y)) = false) :
    least ≠ 2 * d := by
  intro total
  obtain rfl : least = d + d := by omega
  obtain ⟨x, y, waypoint⟩ := shortest.exists_waypoint
  have passes := (passed_of_waypoint explored exploredBack rfl waypoint).2
  rw [apart _ _ (waypoint.reversed rfl)] at passes
  cases passes

/-- The searches do not look outside, they meet only in the middle of a shortest path, and they
do so unless its edits are more than the rounds allow for. -/
theorem exists_rounds {odd : Bool} (parity : odd = ((g.width + g.height) % 2 == 1)) {left : Nat}
    (awaits : forward.Awaits g least offset d)
    (awaitsBack : backward.Awaits g.reversed least offset d)
    (undecided : 2 * d ≤ least + 1) (room : d + left ≤ offset) :
    ∃ found, rounds g odd left d forward backward = .ok found ∧
      (∀ x y, found = some (x, y) → g.Middle least x y) ∧
      (found = none → 2 * (d + left) ≤ least + 1) := by
  induction left generalizing d forward backward with
  | zero => exact ⟨none, rfl, nofun, fun _ => undecided⟩
  | succ left ih =>
      have total := shortest.parity
      obtain ⟨forward', found, ran, unfound, meets⟩ := awaits.exists_round shortest (by omega)
        (by omega) (fun k x => odd && passed g backward.reach k x)
      obtain ⟨backward', foundBack, ranBack, unfoundBack, meetsBack⟩ :=
        awaitsBack.exists_round shortest.reversed (by omega) (by omega)
          (fun k x => !odd && passed g forward'.reach k x)
      have next (explored : forward'.Explored g least offset d)
          (exploredBack : backward'.Explored g.reversed least offset d)
          (more : 2 * (d + 1) ≤ least + 1) :
          ∃ found, rounds g odd left (d + 1) forward' backward' = .ok found ∧
            (∀ x y, found = some (x, y) → g.Middle least x y) ∧
            (found = none → 2 * (d + (left + 1)) ≤ least + 1) := by
        rw [show d + (left + 1) = d + 1 + left by omega]
        exact ih (.explored explored) (.explored exploredBack) more (by omega)
      rw [rounds, ran]
      dsimp only [bind, Except.bind]
      cases odd with
      | true =>
          have odd : (g.width + g.height) % 2 = 1 := by simpa using parity.symm
          cases found with
          | some p =>
              refine ⟨some p, rfl, ?_, nofun⟩
              exact fun x y same => middle_of_forward shortest awaitsBack undecided (meets x y same)
          | none =>
              obtain ⟨explored, apart⟩ := unfound rfl
              have more := ne_of_forward_apart shortest explored awaitsBack apart
              cases foundBack with
              | some p => cases (meetsBack p.1 p.2 rfl).1
              | none =>
                  dsimp only
                  rw [ranBack]
                  exact next explored (unfoundBack rfl).1 (by omega)
      | false =>
          have even : (g.width + g.height) % 2 ≠ 1 := by simpa using parity.symm
          cases found with
          | some p => cases (meets p.1 p.2 rfl).1
          | none =>
              obtain ⟨explored, -⟩ := unfound rfl
              dsimp only
              rw [ranBack]
              cases foundBack with
              | some p =>
                  obtain ⟨x, y⟩ := p
                  obtain ⟨reached, middle⟩ :=
                    middle_of_backward shortest explored (by omega) (meetsBack x y rfl)
                  dsimp only
                  rw [Reach.get_of_position reached]
                  refine ⟨_, rfl, ?_, nofun⟩
                  rintro _ _ ⟨⟩
                  exact middle
              | none =>
                  obtain ⟨exploredBack, apartBack⟩ := unfoundBack rfl
                  have more := ne_of_backward_apart shortest explored exploredBack apartBack
                  exact next explored exploredBack (by omega)

end Both

end Search

/-- The searches never look outside.  If they meet, it is in the middle of a shortest path;
otherwise one of the sequences is empty, or nothing is shared, or a shortest path has more edits
than the limit allows for. -/
theorem exists_meeting {g : Grid} {least : Nat} (shortest : g.Shortest least) :
    ∃ found, meeting g = .ok found ∧ (∀ x y, found = some (x, y) → g.Middle least x y) ∧
      (found = none → g.width + g.height ≤ least ∨ 2 * costLimit ≤ least + 1) := by
  have total := shortest.parity
  have drift := shortest.path.drift
  unfold meeting
  split
  · exact ⟨none, rfl, nofun, fun _ => .inl (by omega)⟩
  · next some =>
      have room :
          0 + min ((g.width + g.height + 1) / 2) costLimit ≤ (g.width + g.height + 1) / 2 := by
        omega
      obtain ⟨found, ran, middle, unfound⟩ :=
        Search.exists_rounds shortest rfl .start .start (Nat.zero_le _) room
      refine ⟨found, ran, middle, fun none => ?_⟩
      have limit := unfound none
      omega

end EditGuard.Difference
