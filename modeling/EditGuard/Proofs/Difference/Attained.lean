import EditGuard.Proofs.Difference.Path

/-!
# Positions that a search attains

A search may step beyond the grid.  Such a position stands for the nearest one in the grid, and
each step beyond it has cost an edit: so a search that has left the grid is not on a shortest
path any more.  One advance on a diagonal attains a position with one more edit, and it stops
only where no equal items follow.
-/

namespace EditGuard.Difference

/-! ## The positions of a search -/

namespace Reach

/-- The position on a diagonal, or `-1`. -/
def position (r : Reach) (k : Int) : Int :=
  (r.get? k).getD (-1)

/-- The position from which a search advances on a diagonal: a step from the neighbour that has
come further. -/
def next (r : Reach) (d k : Int) : Int :=
  if k = -d ∨ k ≠ d ∧ r.position (k - 1) < r.position (k + 1) then r.position (k + 1)
  else r.position (k - 1) + 1

/-- A search that has room for the diagonals from `-offset` to `offset + 1`. -/
structure Covers (r : Reach) (offset : Nat) : Prop where
  offset_eq : r.offset = offset
  size_eq : r.positions.size = 2 * offset + 2

variable {r : Reach} {offset : Nat} {k : Int}

theorem get?_of_position (reached : r.position k ≠ -1) : r.get? k = some (r.position k) := by
  unfold position at reached ⊢
  cases found : r.get? k with
  | none => rw [found] at reached; contradiction
  | some x => rfl

theorem get_of_position (reached : r.position k ≠ -1) : r.get k = .ok (r.position k) := by
  rw [get, get?_of_position reached]

theorem Covers.get_eq (covers : r.Covers offset) (lowest : -(offset : Int) ≤ k)
    (highest : k ≤ offset + 1) : r.get k = .ok (r.position k) := by
  have size := covers.size_eq
  have index : ((r.offset : Int) + k).toNat < r.positions.size := by
    rw [covers.offset_eq]
    omega
  have found : r.get? k = some r.positions[((r.offset : Int) + k).toNat] := by
    rw [get?, if_neg (by rw [covers.offset_eq]; omega), Array.getElem?_eq_getElem index]
  rw [get, position, found]
  rfl

/-- A position can be recorded on each diagonal there is room for, and no other changes. -/
theorem Covers.exists_set (covers : r.Covers offset) (lowest : -(offset : Int) ≤ k)
    (highest : k ≤ offset + 1) (x : Int) :
    ∃ r' : Reach, r.set k x = .ok r' ∧ r'.Covers offset ∧ r'.position k = x ∧
      ∀ j, j ≠ k → r'.position j = r.position j := by
  have size := covers.size_eq
  have start := covers.offset_eq
  have index : 0 ≤ (r.offset : Int) + k ∧ ((r.offset : Int) + k).toNat < r.positions.size := by
    omega
  refine ⟨_, if_pos index, ⟨start, ?_⟩, ?_, ?_⟩
  · rw [Array.size_setIfInBounds]
    exact size
  · rw [position, get?, if_neg (by dsimp only; omega),
      Array.getElem?_setIfInBounds_self_of_lt index.2]
    rfl
  · intro j other
    unfold position get?
    dsimp only
    split
    · rfl
    · rw [Array.getElem?_setIfInBounds_ne (by omega)]

theorem covers_start (offset : Nat) : (start offset).Covers offset :=
  ⟨rfl, by simp [start]⟩

/-- Before a search begins, only the diagonal its first step comes from has a position. -/
theorem position_start (offset : Nat) (k : Int) :
    (start offset).position k = if k = 1 then 0 else -1 := by
  unfold position get? start
  dsimp only
  by_cases sentinel : k = 1
  · rw [if_neg (by omega), if_pos sentinel, show ((offset : Int) + k).toNat = offset + 1 by omega,
      Array.getElem?_setIfInBounds_self_of_lt (by rw [Array.size_replicate]; omega)]
    rfl
  · rw [if_neg sentinel]
    split
    · rfl
    · rw [Array.getElem?_setIfInBounds_ne (by omega), Array.getElem?_replicate]
      split <;> rfl

end Reach

namespace Grid

variable {g : Grid} {d e : Nat} {x y : Int}

/-! ## Attained positions -/

/-- A position that a search attains with at most a number of edits.  It may lie beyond the
grid: then the nearest position in the grid is at the end of a path, and each step beyond has
cost an edit. -/
def Attains (g : Grid) (d : Nat) (x y : Int) : Prop :=
  ∃ a b i : Nat, x = a ∧ y = b ∧ g.Path i 0 0 (min a g.width) (min b g.height) ∧
    i + (a - g.width) + (b - g.height) ≤ d

namespace Attains

theorem start (g : Grid) : g.Attains 0 0 0 :=
  ⟨0, 0, 0, rfl, rfl, by simpa using Path.here (Nat.zero_le _) (Nat.zero_le _), by omega⟩

theorem mono (attains : g.Attains d x y) (more : d ≤ e) : g.Attains e x y := by
  obtain ⟨a, b, i, across, down, path, few⟩ := attains
  exact ⟨a, b, i, across, down, path, by omega⟩

theorem right (attains : g.Attains d x y) : g.Attains (d + 1) (x + 1) y := by
  obtain ⟨a, b, i, rfl, rfl, path, few⟩ := attains
  by_cases inside : a < g.width
  · have last := Path.rightward (g := g) (x := min a g.width) (y := min b g.height) (n := 1)
      (by omega) (by omega)
    rw [show min a g.width + 1 = min (a + 1) g.width by omega] at last
    exact ⟨a + 1, b, i + 1, rfl, rfl, path.trans last, by omega⟩
  · rw [show min a g.width = min (a + 1) g.width by omega] at path
    exact ⟨a + 1, b, i, rfl, rfl, path, by omega⟩

theorem down (attains : g.Attains d x y) : g.Attains (d + 1) x (y + 1) := by
  obtain ⟨a, b, i, rfl, rfl, path, few⟩ := attains
  by_cases inside : b < g.height
  · have last := Path.downward (g := g) (x := min a g.width) (y := min b g.height) (n := 1)
      (by omega) (by omega)
    rw [show min b g.height + 1 = min (b + 1) g.height by omega] at last
    exact ⟨a, b + 1, i + 1, rfl, rfl, path.trans last, by omega⟩
  · rw [show min b g.height = min (b + 1) g.height by omega] at path
    exact ⟨a, b + 1, i, rfl, rfl, path, by omega⟩

theorem diagonal {a b : Nat} (attains : g.Attains d a b) (inWidth : a < g.width)
    (inHeight : b < g.height) (same : g.same a b = true) :
    g.Attains d (a + 1 : Nat) (b + 1 : Nat) := by
  obtain ⟨a', b', i, across, down, path, few⟩ := attains
  obtain rfl : a = a' := by omega
  obtain rfl : b = b' := by omega
  rw [Nat.min_eq_left (by omega), Nat.min_eq_left (by omega)] at path
  refine ⟨a + 1, b + 1, i, rfl, rfl, ?_, by omega⟩
  rw [Nat.min_eq_left (by omega), Nat.min_eq_left (by omega)]
  exact path.trans (.diagonal same (.here inWidth inHeight))

/-- As many edits are needed at least as the diagonal is away. -/
theorem drift (attains : g.Attains d x y) : 0 ≤ x ∧ 0 ≤ y ∧ x ≤ y + d ∧ y ≤ x + d := by
  obtain ⟨a, b, i, rfl, rfl, path, few⟩ := attains
  have drift := path.drift
  omega

/-- Where one of the sequences is used up, what is left of the other is all there is to edit;
what is beyond the grid has been edited for nothing. -/
theorem least_of_end {least : Nat} (shortest : g.Shortest least) (attains : g.Attains d x y)
    (used : (g.width : Int) ≤ x ∨ (g.height : Int) ≤ y) :
    least + x + y ≤ d + g.width + g.height := by
  obtain ⟨a, b, i, rfl, rfl, path, few⟩ := attains
  have bounds := path.bounds
  have rest := Path.toEnd (g := g) (x := min a g.width) (y := min b g.height) (by omega) (by omega)
  have least := shortest.least _ (path.trans rest)
  omega

end Attains

/-! ## Equal items -/

/-- No equal items lead beyond a position on a diagonal. -/
def Stops (g : Grid) (k x : Int) : Prop :=
  ∀ a b a' b' : Nat, g.Path 0 a b a' b' → (a : Int) - b = k → (a : Int) ≤ x → (a' : Int) ≤ x

/-- Following equal items ends where they do. -/
theorem exists_slide (g : Grid) {bound a b : Nat} (enough : g.width < a + bound) :
    ∃ n : Nat, g.slide bound a b = .ok ((a + n : Nat), (b + n : Nat)) ∧
      (∀ i < n, a + i < g.width ∧ b + i < g.height ∧ g.same (a + i) (b + i) = true) ∧
      ¬(a + n < g.width ∧ b + n < g.height ∧ g.same (a + n) (b + n) = true) := by
  induction bound generalizing a b with
  | zero => exact ⟨0, rfl, by omega, by omega⟩
  | succ bound ih =>
      by_cases inside : a < g.width ∧ b < g.height
      · by_cases same : g.same a b = true
        · obtain ⟨n, slid, each, ends⟩ := ih (a := a + 1) (b := b + 1) (by omega)
          refine ⟨n + 1, ?_, ?_, ?_⟩
          · rw [slide, if_pos (by omega), if_neg (by omega), Int.toNat_natCast, Int.toNat_natCast,
              if_pos same, ← Nat.add_assoc, ← Nat.add_assoc, Nat.add_right_comm a n,
              Nat.add_right_comm b n]
            exact slid
          · intro i before
            cases i with
            | zero => exact ⟨inside.1, inside.2, same⟩
            | succ i =>
                rw [← Nat.add_assoc, ← Nat.add_assoc, Nat.add_right_comm a i,
                  Nat.add_right_comm b i]
                exact each i (by omega)
          · rw [← Nat.add_assoc, ← Nat.add_assoc, Nat.add_right_comm a n, Nat.add_right_comm b n]
            exact ends
        · refine ⟨0, ?_, by omega, fun further => same further.2.2⟩
          rw [slide, if_pos (by omega), if_neg (by omega), Int.toNat_natCast, Int.toNat_natCast,
            if_neg same]
          rfl
      · refine ⟨0, ?_, by omega, fun further => inside ⟨further.1, further.2.1⟩⟩
        rw [slide, if_neg (by omega)]
        rfl

/-- From an attained position equal items lead to another one, and no further. -/
theorem Attains.exists_slide (attains : g.Attains d x y) :
    ∃ x' : Int, g.slide (g.width + 1) x y = .ok (x', x' - (x - y)) ∧
      g.Attains d x' (x' - (x - y)) ∧ x ≤ x' ∧ g.Stops (x - y) x' := by
  obtain ⟨a, b, -, rfl, rfl, -, -⟩ := id attains
  obtain ⟨n, slid, each, ends⟩ := g.exists_slide (Nat.lt_add_left a (Nat.lt_succ_self _))
  have lower : ((a + n : Nat) : Int) - ((a : Int) - b) = (b + n : Nat) := by omega
  refine ⟨(a + n : Nat), ?_, ?_, by omega, ?_⟩
  · rw [lower]
    exact slid
  · rw [lower]
    clear slid ends lower
    induction n with
    | zero => exact attains
    | succ n ih =>
        obtain ⟨inWidth, inHeight, same⟩ := each n (by omega)
        exact (ih fun i before => each i (by omega)).diagonal inWidth inHeight same
  · intro u v u' v' free diagonal before
    apply Int.not_lt.mp
    intro beyond
    have bounds := free.bounds
    have drift := free.drift
    apply ends
    have same := free.same_of_free (i := a + n - u) (by omega)
    rw [show u + (a + n - u) = a + n by omega, show v + (a + n - u) = b + n by omega] at same
    exact ⟨by omega, by omega, same⟩

/-! ## Advancing on a diagonal -/

/-- What a search has attained on a diagonal, if anything. -/
def Attained (g : Grid) (d : Nat) (r : Reach) (k : Int) : Prop :=
  r.position k = -1 ∨ g.Attains d (r.position k) (r.position k - k)

theorem advance_eq {r : Reach} {offset : Nat} {k : Int} (covers : r.Covers offset)
    (room : d ≤ offset) (lowest : -(d : Int) ≤ k) (highest : k ≤ d) (some : 0 < d) :
    g.advance r d k = g.slide (g.width + 1) (r.next d k) (r.next d k - k) := by
  unfold advance Reach.next
  by_cases bottom : k = -(d : Int)
  · rw [if_pos bottom, if_pos (Or.inl bottom)]
    have after := covers.get_eq (k := k + 1) (by omega) (by omega)
    simp only [pure_bind, if_true, after]
    rfl
  · have before := covers.get_eq (k := k - 1) (by omega) (by omega)
    by_cases top : k = d
    · rw [if_neg bottom, if_pos top, if_neg (by omega)]
      simp only [pure_bind, Bool.false_eq_true, if_false, before]
      rfl
    · have after := covers.get_eq (k := k + 1) (by omega) (by omega)
      simp only [before, after, if_neg bottom, if_neg top]
      by_cases further : r.position (k - 1) < r.position (k + 1)
      · rw [if_pos (Or.inr ⟨top, further⟩)]
        simp only [bind, Except.bind, pure, Except.pure, decide_eq_true further, if_true]
      · rw [if_neg (by omega)]
        simp only [bind, Except.bind, pure, Except.pure, decide_eq_false further,
          Bool.false_eq_true, if_false]

section Advance

variable {r : Reach} {k : Int}

/-- A step to the right comes from the diagonal before, and so not to the first one that the
edits reach. -/
theorem Attained.right (before : g.Attained d r (k - 1)) (known : r.position (k - 1) ≠ -1) :
    0 ≤ r.position (k - 1) ∧ k ≠ -((d + 1 : Nat) : Int) ∧
      g.Attains (d + 1) (r.position (k - 1) + 1) (r.position (k - 1) + 1 - k) := by
  have attains := before.resolve_left known
  have drift := attains.drift
  have next := attains.right
  rw [show r.position (k - 1) - (k - 1) = r.position (k - 1) + 1 - k by omega] at next
  exact ⟨drift.1, by omega, next⟩

/-- A step downwards comes from the diagonal after, and so not to the last one that the edits
reach. -/
theorem Attained.down (after : g.Attained d r (k + 1)) (known : r.position (k + 1) ≠ -1) :
    0 ≤ r.position (k + 1) ∧ k ≠ (d + 1 : Nat) ∧
      g.Attains (d + 1) (r.position (k + 1)) (r.position (k + 1) - k) := by
  have attains := after.resolve_left known
  have drift := attains.drift
  have next := attains.down
  rw [show r.position (k + 1) - (k + 1) + 1 = r.position (k + 1) - k by omega] at next
  exact ⟨drift.1, by omega, next⟩

/-- The better of both steps to a diagonal is attained. -/
theorem attains_next (before : g.Attained d r (k - 1)) (after : g.Attained d r (k + 1))
    (reached : r.position (k - 1) ≠ -1 ∨ r.position (k + 1) ≠ -1) :
    g.Attains (d + 1) (r.next (d + 1 : Nat) k) (r.next (d + 1 : Nat) k - k) ∧
      r.position (k - 1) + 1 ≤ r.next (d + 1 : Nat) k ∧
      r.position (k + 1) ≤ r.next (d + 1 : Nat) k := by
  unfold Reach.next
  by_cases known : r.position (k - 1) = -1
  · have other := reached.resolve_left (not_not.mpr known)
    obtain ⟨least, inner, attains⟩ := after.down other
    rw [if_pos (by omega)]
    exact ⟨attains, by omega, by omega⟩
  · obtain ⟨least, inner, attains⟩ := before.right known
    split
    · have other : r.position (k + 1) ≠ -1 := by omega
      exact ⟨(after.down other).2.2, by omega, by omega⟩
    · refine ⟨attains, by omega, ?_⟩
      by_cases other : r.position (k + 1) = -1
      · omega
      · have inner := (after.down other).2.1
        omega

/-- With one more edit a search attains a position on a diagonal from what it has attained on
the neighbouring ones, not before the positions that these lead to, and as far as equal items
go. -/
theorem exists_advance {offset : Nat} (covers : r.Covers offset) (room : d + 1 ≤ offset)
    (lowest : -((d + 1 : Nat) : Int) ≤ k) (highest : k ≤ (d + 1 : Nat))
    (before : g.Attained d r (k - 1)) (after : g.Attained d r (k + 1))
    (reached : r.position (k - 1) ≠ -1 ∨ r.position (k + 1) ≠ -1) :
    ∃ x : Int, g.advance r (d + 1 : Nat) k = .ok (x, x - k) ∧ g.Attains (d + 1) x (x - k) ∧
      r.position (k - 1) + 1 ≤ x ∧ r.position (k + 1) ≤ x ∧ g.Stops k x := by
  obtain ⟨attains, notBefore, notAfter⟩ := attains_next before after reached
  obtain ⟨x, slid, attainsLater, further, stops⟩ := attains.exists_slide
  rw [Int.sub_sub_self] at slid attainsLater stops
  refine ⟨x, ?_, attainsLater, by omega, by omega, stops⟩
  rw [advance_eq covers room lowest highest (Nat.succ_pos d)]
  exact slid

end Advance

end Grid

end EditGuard.Difference
