/-!
# Where two searches meet

A shortest edit script between two sequences is a path through the grid of their
positions, with a step to the right for a removal, a step down for an addition,
and a free diagonal step where both items are equal.  Two searches, from the
start and from the end, go as far as they can on each diagonal with one more
edit in every round.  Where they meet is the middle of a shortest path.

Positions count from the end at which a search starts, and diagonal `k` holds the
positions whose coordinates differ by `k`.
-/

namespace EditGuard.Difference

/-- A search looked beyond one of the sequences or of the diagonals. -/
structure Outside where
deriving Repr, DecidableEq, Inhabited

/-- How far a search has come on each diagonal, from `-offset` on.  A diagonal that
has not been reached has `-1`. -/
structure Reach where
  offset : Nat
  positions : Array Int
deriving Repr, Inhabited

namespace Reach

/-- A search that has not begun.  Its first step comes from diagonal one. -/
def start (offset : Nat) : Reach :=
  ⟨offset, (Array.replicate (2 * offset + 2) (-1)).setIfInBounds (offset + 1) 0⟩

/-- The position on a diagonal, if the diagonal exists. -/
def get? (r : Reach) (k : Int) : Option Int :=
  let i := (r.offset : Int) + k
  if i < 0 then none else r.positions[i.toNat]?

def get (r : Reach) (k : Int) : Except Outside Int :=
  match r.get? k with
  | some x => .ok x
  | none => .error {}

def set (r : Reach) (k x : Int) : Except Outside Reach :=
  let i := (r.offset : Int) + k
  if 0 ≤ i ∧ i.toNat < r.positions.size then
    .ok { r with positions := r.positions.setIfInBounds i.toNat x }
  else .error {}

end Reach

/-- Two sequences as one of the searches sees them: their lengths and which of
their items are equal. -/
structure Grid where
  width : Nat
  height : Nat
  same : Nat → Nat → Bool

namespace Grid

/-- The sequences as seen from their ends. -/
def reversed (g : Grid) : Grid :=
  { g with same := fun x y => g.same (g.width - x - 1) (g.height - y - 1) }

/-- Follow equal items from a position, at most a number of them. -/
def slide (g : Grid) : Nat → Int → Int → Except Outside (Int × Int)
  | 0, x, y => .ok (x, y)
  | bound + 1, x, y =>
      if x < g.width ∧ y < g.height then
        if x < 0 ∨ y < 0 then .error {}
        else if g.same x.toNat y.toNat then g.slide bound (x + 1) (y + 1)
        else .ok (x, y)
      else .ok (x, y)

/-- The furthest position on a diagonal after one more edit: a step from the
neighbour that has come further, and all equal items after it. -/
def advance (g : Grid) (r : Reach) (d k : Int) : Except Outside (Int × Int) := do
  let fromAbove ←
    if k = -d then pure true
    else if k = d then pure false
    else do pure (decide ((← r.get (k - 1)) < (← r.get (k + 1))))
  let x ← if fromAbove then r.get (k + 1) else do pure ((← r.get (k - 1)) + 1)
  g.slide (g.width + 1) x (x - k)

end Grid

/-- A search: how far it has come, and how many diagonals at either end it has
left because they run out of the grid. -/
structure Search where
  reach : Reach
  skippedFirst : Nat
  skippedLast : Nat
deriving Repr, Inhabited

namespace Search

def start (offset : Nat) : Search :=
  ⟨.start offset, 0, 0⟩

/-- Advance on every other diagonal from one on, unless the search meets the
other one, which `met` decides from a diagonal and the position on it. -/
def sweep (g : Grid) (met : Int → Int → Bool) (d : Int) :
    Nat → Int → Search → Except Outside (Search × Option (Int × Int))
  | 0, _, s => .ok (s, none)
  | bound + 1, k, s =>
      if d - s.skippedLast < k then .ok (s, none)
      else do
        let (x, y) ← g.advance s.reach d k
        let reach ← s.reach.set k x
        let s := { s with reach }
        if (g.width : Int) < x then
          sweep g met d bound (k + 2) { s with skippedLast := s.skippedLast + 2 }
        else if (g.height : Int) < y then
          sweep g met d bound (k + 2) { s with skippedFirst := s.skippedFirst + 2 }
        else if met k x then return (s, some (x, y))
        else sweep g met d bound (k + 2) s

/-- One round: the diagonals that `d` edits reach. -/
def round (g : Grid) (met : Int → Int → Bool) (d : Nat) (s : Search) :
    Except Outside (Search × Option (Int × Int)) :=
  sweep g met d (d + 1) (-(d : Int) + s.skippedFirst) s

/-- Whether a position on a diagonal of one search has passed the other search,
which counts diagonals and positions from the opposite end. -/
def passed (g : Grid) (other : Reach) (k x : Int) : Bool :=
  match other.get? ((g.width : Int) - g.height - k) with
  | some x' => x' != -1 && decide ((g.width : Int) - x' ≤ x)
  | none => false

end Search

/-- The most edits from either end that are tried. -/
def costLimit : Nat := 1024

/-- The rounds of both searches.  They can meet in the first search's part of a
round if the lengths differ by an odd number, and otherwise in the second's. -/
def rounds (g : Grid) (odd : Bool) :
    Nat → Nat → Search → Search → Except Outside (Option (Int × Int))
  | 0, _, _, _ => .ok none
  | left + 1, d, forward, backward => do
      let (forward, found) ←
        forward.round g (fun k x => odd && Search.passed g backward.reach k x) d
      if let some p := found then return some p
      let (backward, found) ←
        backward.round g.reversed (fun k x => !odd && Search.passed g forward.reach k x) d
      match found with
      | none => rounds g odd left (d + 1) forward backward
      | some (x, y) =>
          let k := (g.width : Int) - g.height - (x - y)
          let x ← forward.reach.get k
          return some (x, x - k)

/-- Where the two searches meet, if they do within the limit. -/
def meeting (g : Grid) : Except Outside (Option (Int × Int)) :=
  if g.width = 0 ∨ g.height = 0 then .ok none
  else
    let most := (g.width + g.height + 1) / 2
    rounds g ((g.width + g.height) % 2 == 1) (min most costLimit) 0 (.start most) (.start most)

end EditGuard.Difference
