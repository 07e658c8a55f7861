import EditGuard.Difference.Snake

/-!
# Differences of sequences

What has to be removed and added to turn one sequence into another.  The shared
ends are kept; the rest is cut where the two searches meet, and each part is
treated in the same way.  Parts that are too different are replaced as a whole.
-/

namespace EditGuard

/-- What happens to an item. -/
inductive Change (α : Type) where
  | keep (item : α)
  | remove (item : α)
  | add (item : α)
deriving Repr, DecidableEq, Inhabited

namespace Change

variable {α : Type}

def isKeep : Change α → Bool
  | keep _ => true
  | _ => false

/-- The item of the first sequence. -/
def old? : Change α → Option α
  | keep a | remove a => some a
  | add _ => none

/-- The item of the second sequence. -/
def new? : Change α → Option α
  | keep a | add a => some a
  | remove _ => none

/-- An item that the second sequence no longer has. -/
def removed? : Change α → Option α
  | remove a => some a
  | _ => none

/-- An item that only the second sequence has. -/
def added? : Change α → Option α
  | add a => some a
  | _ => none

end Change

namespace Difference

variable {α : Type} [BEq α]

/-- How many items two sequences share at their start. -/
def sharedLength : List α → List α → Nat
  | a :: as, b :: bs => if a == b then sharedLength as bs + 1 else 0
  | _, _ => 0

/-- The grid of two sequences. -/
def gridOf (old new : Array α) : Grid :=
  { width := old.size
    height := new.size
    same := fun x y =>
      match old[x]?, new[y]? with
      | some a, some b => a == b
      | _, _ => false }

/-- Where to cut two sequences, as the lengths of the first parts.  Neither both
first parts nor both second parts are empty. -/
def cut? (old new : List α) : Option (Nat × Nat) :=
  match meeting (gridOf old.toArray new.toArray) with
  | .ok (some (x, y)) =>
      if 0 ≤ x ∧ 0 ≤ y ∧ x ≤ old.length ∧ y ≤ new.length ∧ (x, y) ≠ (0, 0) ∧
          (x, y) ≠ ((old.length : Int), (new.length : Int)) then
        some (x.toNat, y.toNat)
      else none
  | _ => none

theorem cut?_bounds {old new : List α} {x y : Nat} (h : cut? old new = some (x, y)) :
    x ≤ old.length ∧ y ≤ new.length ∧ 0 < x + y ∧ x + y < old.length + new.length := by
  unfold cut? at h
  split at h
  · rename_i x' y' _
    split at h
    · rename_i bounds
      simp only [Option.some.injEq, Prod.mk.injEq] at h
      simp only [ne_eq, Prod.mk.injEq] at bounds
      omega
    · contradiction
  · contradiction

end Difference

/-- What turns one sequence into another. -/
def changes {α : Type} [BEq α] (old new : List α) : List (Change α) :=
  let first := Difference.sharedLength old new
  let oldRest := old.drop first
  let newRest := new.drop first
  let last := Difference.sharedLength oldRest.reverse newRest.reverse
  let oldPart := oldRest.take (oldRest.length - last)
  let newPart := newRest.take (newRest.length - last)
  (old.take first).map .keep ++
    (match _cut : Difference.cut? oldPart newPart with
    | some (x, y) =>
        changes (oldPart.take x) (newPart.take y) ++ changes (oldPart.drop x) (newPart.drop y)
    | none => oldPart.map .remove ++ newPart.map .add) ++
    (oldRest.drop (oldRest.length - last)).map .keep
termination_by old.length + new.length
decreasing_by
  all_goals
    have bounds := Difference.cut?_bounds _cut
    simp only [oldPart, newPart, oldRest, newRest, List.length_take, List.length_drop] at bounds ⊢
    omega

end EditGuard
