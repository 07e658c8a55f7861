import EditGuard.Difference
import EditGuard.Proofs.Difference.Path

/-!
# Scripts

Changes turn one sequence into another if what they keep and remove is the one and what they
keep and add is the other.  Such scripts are the paths through the grid of the sequences, with
as many edits as they have removals and additions, and what a script keeps is a common
subsequence.
-/

namespace EditGuard.Difference

variable {α : Type} {old new old' new' : List α} {cs cs' : List (Change α)}

/-- Changes that turn one sequence into another. -/
structure Turns (old new : List α) (cs : List (Change α)) : Prop where
  old_eq : cs.filterMap Change.old? = old
  new_eq : cs.filterMap Change.new? = new

/-- How many items changes remove or add. -/
def cost (cs : List (Change α)) : Nat :=
  cs.countP fun c => !c.isKeep

/-- The items that changes keep. -/
def kept (cs : List (Change α)) : List α :=
  cs.filterMap fun
    | .keep a => some a
    | .remove _ | .add _ => none

@[simp]
theorem cost_append (cs cs' : List (Change α)) : cost (cs ++ cs') = cost cs + cost cs' :=
  List.countP_append

@[simp]
theorem cost_cons_keep (a : α) (cs : List (Change α)) : cost (.keep a :: cs) = cost cs :=
  List.countP_cons_of_neg (by simp [Change.isKeep])

@[simp]
theorem cost_cons_remove (a : α) (cs : List (Change α)) : cost (.remove a :: cs) = cost cs + 1 :=
  List.countP_cons_of_pos rfl

@[simp]
theorem cost_cons_add (a : α) (cs : List (Change α)) : cost (.add a :: cs) = cost cs + 1 :=
  List.countP_cons_of_pos rfl

@[simp]
theorem cost_keep (items : List α) : cost (items.map .keep) = 0 := by
  rw [cost, List.countP_map, List.countP_eq_zero]
  simp [Change.isKeep]

theorem eq_keep_of_cost_eq_zero (free : cost cs = 0) :
    cs = (cs.filterMap Change.old?).map .keep := by
  induction cs with
  | nil => rfl
  | cons c cs ih =>
      cases c with
      | keep a =>
          rw [cost_cons_keep] at free
          exact congrArg (Change.keep a :: ·) (ih free)
      | remove a => rw [cost_cons_remove] at free; contradiction
      | add a => rw [cost_cons_add] at free; contradiction

/-- What is replaced as a whole is removed and added. -/
theorem cost_replaced (old new : List α) :
    cost (old.map .remove ++ new.map .add) = old.length + new.length := by
  rw [cost_append, cost, cost, List.countP_map, List.countP_map]
  exact congrArg₂ _ (List.countP_eq_length.mpr fun _ _ => rfl)
    (List.countP_eq_length.mpr fun _ _ => rfl)

namespace Turns

theorem append (turns : Turns old new cs) (turns' : Turns old' new' cs') :
    Turns (old ++ old') (new ++ new') (cs ++ cs') :=
  ⟨by rw [List.filterMap_append, turns.old_eq, turns'.old_eq],
    by rw [List.filterMap_append, turns.new_eq, turns'.new_eq]⟩

theorem reverse (turns : Turns old new cs) : Turns old.reverse new.reverse cs.reverse :=
  ⟨by rw [List.filterMap_reverse, turns.old_eq], by rw [List.filterMap_reverse, turns.new_eq]⟩

theorem keep (items : List α) : Turns items items (items.map .keep) :=
  ⟨by simp [List.filterMap_map, Function.comp_def, Change.old?],
    by simp [List.filterMap_map, Function.comp_def, Change.new?]⟩

/-- From nothing, there is only one script. -/
theorem eq_add (turns : Turns [] new cs) : cs = new.map .add := by
  obtain ⟨noOld, rfl⟩ := turns
  induction cs with
  | nil => rfl
  | cons c cs ih =>
      cases c with
      | keep a | remove a => exact absurd noOld (List.cons_ne_nil _ _)
      | add a => exact congrArg (Change.add a :: ·) (ih noOld)

theorem replaced (old new : List α) : Turns old new (old.map .remove ++ new.map .add) :=
  ⟨by simp [List.filterMap_map, Function.comp_def, Change.old?],
    by simp [List.filterMap_map, Function.comp_def, Change.new?]⟩

end Turns

theorem cost_reverse (cs : List (Change α)) : cost cs.reverse = cost cs :=
  List.countP_reverse

/-! ## Scripts and paths -/

section Grid

variable [BEq α] [LawfulBEq α] {d x y x' y' : Nat}

theorem same_gridOf_iff :
    (gridOf old.toArray new.toArray).same x y = true ↔
      ∃ a, old[x]? = some a ∧ new[y]? = some a := by
  simp only [gridOf, List.getElem?_toArray]
  cases old[x]? with
  | none => simp
  | some a =>
      cases new[y]? with
      | none => simp
      | some b =>
          simp only [beq_iff_eq, Option.some.injEq, exists_eq_left']
          exact eq_comm

/-- The items that a path goes past are those of a script with as many changes as the path has
edits. -/
theorem exists_script (path : (gridOf old.toArray new.toArray).Path d x y x' y') :
    ∃ cs, old.drop x = cs.filterMap Change.old? ++ old.drop x' ∧
      new.drop y = cs.filterMap Change.new? ++ new.drop y' ∧ cost cs = d := by
  induction path with
  | here => exact ⟨[], rfl, rfl, rfl⟩
  | @right d x y x' y' rest ih =>
      obtain ⟨cs, across, down, edits⟩ := ih
      have bounds := rest.bounds
      have inside : x < old.length := by
        have width : (gridOf old.toArray new.toArray).width = old.length := rfl
        omega
      refine ⟨.remove old[x] :: cs, ?_, down, by rw [cost_cons_remove, edits]⟩
      rw [List.drop_eq_getElem_cons inside, across]
      rfl
  | @down d x y x' y' rest ih =>
      obtain ⟨cs, across, down, edits⟩ := ih
      have bounds := rest.bounds
      have inside : y < new.length := by
        have height : (gridOf old.toArray new.toArray).height = new.length := rfl
        omega
      refine ⟨.add new[y] :: cs, across, ?_, by rw [cost_cons_add, edits]⟩
      rw [List.drop_eq_getElem_cons inside, down]
      rfl
  | @diagonal d x y x' y' same rest ih =>
      obtain ⟨cs, across, down, edits⟩ := ih
      obtain ⟨a, first, second⟩ := same_gridOf_iff.mp same
      obtain ⟨inside, rfl⟩ := List.getElem?_eq_some_iff.mp first
      obtain ⟨insideNew, item⟩ := List.getElem?_eq_some_iff.mp second
      refine ⟨.keep old[x] :: cs, ?_, ?_, by rw [cost_cons_keep, edits]⟩
      · rw [List.drop_eq_getElem_cons inside, across]
        rfl
      · rw [List.drop_eq_getElem_cons insideNew, down, item]
        rfl

omit [BEq α] [LawfulBEq α] in
theorem of_drop_eq_cons {items rest : List α} {a : α} (cut : items.drop x = a :: rest) :
    items[x]? = some a ∧ x < items.length ∧ items.drop (x + 1) = rest := by
  have found : items[x]? = some a := by
    have first := congrArg List.head? cut
    rwa [List.head?_drop] at first
  exact ⟨found, (List.getElem?_eq_some_iff.mp found).1, by rw [← List.tail_drop, cut]; rfl⟩

/-- A script is a path to the end with as many edits as it has changes. -/
theorem Turns.path (turns : Turns (old.drop x) (new.drop y) cs) (inWidth : x ≤ old.length)
    (inHeight : y ≤ new.length) :
    (gridOf old.toArray new.toArray).Path (cost cs) x y old.length new.length := by
  induction cs generalizing x y with
  | nil =>
      have across := List.drop_eq_nil_iff.mp turns.old_eq.symm
      have down := List.drop_eq_nil_iff.mp turns.new_eq.symm
      obtain rfl : x = old.length := by omega
      obtain rfl : y = new.length := by omega
      exact .here (Nat.le_refl _) (Nat.le_refl _)
  | cons c cs ih =>
      cases c with
      | keep a =>
          obtain ⟨first, inside, rest⟩ := of_drop_eq_cons turns.old_eq.symm
          obtain ⟨second, insideNew, restNew⟩ := of_drop_eq_cons turns.new_eq.symm
          rw [cost_cons_keep]
          exact .diagonal (same_gridOf_iff.mpr ⟨a, first, second⟩)
            (ih ⟨rest.symm, restNew.symm⟩ inside insideNew)
      | remove a =>
          obtain ⟨-, inside, rest⟩ := of_drop_eq_cons turns.old_eq.symm
          rw [cost_cons_remove]
          exact .right (ih ⟨rest.symm, turns.new_eq⟩ inside inHeight)
      | add a =>
          obtain ⟨-, inside, rest⟩ := of_drop_eq_cons turns.new_eq.symm
          rw [cost_cons_add]
          exact .down (ih ⟨turns.old_eq, rest.symm⟩ inWidth inside)

/-- A path to the end, from anywhere, is a script for what is left. -/
theorem exists_turns_of_path
    (path : (gridOf old.toArray new.toArray).Path d x y old.length new.length) :
    ∃ cs, Turns (old.drop x) (new.drop y) cs ∧ cost cs = d := by
  obtain ⟨cs, across, down, edits⟩ := exists_script path
  rw [List.drop_length, List.append_nil] at across down
  exact ⟨cs, ⟨across.symm, down.symm⟩, edits⟩

/-- A path from the start, to anywhere, is a script for what it goes past. -/
theorem exists_turns_of_path_start
    (path : (gridOf old.toArray new.toArray).Path d 0 0 x y) :
    ∃ cs, Turns (old.take x) (new.take y) cs ∧ cost cs = d := by
  obtain ⟨cs, across, down, edits⟩ := exists_script path
  rw [List.drop_zero] at across down
  refine ⟨cs, ⟨?_, ?_⟩, edits⟩
  · exact List.append_cancel_right (across.symm.trans (List.take_append_drop x old).symm)
  · exact List.append_cancel_right (down.symm.trans (List.take_append_drop y new).symm)

/-- Without the first item of both, two sequences are not further apart if these are equal. -/
theorem Turns.exists_tail {a : α} (turns : Turns (a :: old) (a :: new) cs) :
    ∃ cs', Turns old new cs' ∧ cost cs' ≤ cost cs := by
  have path := turns.path (x := 0) (y := 0) (Nat.zero_le _) (Nat.zero_le _)
  obtain ⟨e, fewer, rest⟩ := path.along (Nat.succ_pos _) (Nat.succ_pos _)
  obtain ⟨cs', turns', edits⟩ := exists_turns_of_path rest
  exact ⟨cs', turns', by omega⟩

theorem Turns.exists_after {start : List α} (turns : Turns (start ++ old) (start ++ new) cs) :
    ∃ cs', Turns old new cs' ∧ cost cs' ≤ cost cs := by
  induction start generalizing cs with
  | nil => exact ⟨cs, turns, Nat.le_refl _⟩
  | cons a start ih =>
      obtain ⟨shorter, turns', fewer⟩ := turns.exists_tail
      obtain ⟨cs', turns'', least⟩ := ih turns'
      exact ⟨cs', turns'', Nat.le_trans least fewer⟩

/-- Without what they share at their ends, two sequences are not further apart. -/
theorem Turns.exists_between {start finish : List α}
    (turns : Turns (start ++ (old ++ finish)) (start ++ (new ++ finish)) cs) :
    ∃ cs', Turns old new cs' ∧ cost cs' ≤ cost cs := by
  obtain ⟨shorter, turns', fewer⟩ := turns.exists_after
  have back := turns'.reverse
  rw [List.reverse_append, List.reverse_append] at back
  obtain ⟨cs', turns'', least⟩ := back.exists_after
  have forth := turns''.reverse
  rw [List.reverse_reverse, List.reverse_reverse] at forth
  rw [cost_reverse] at least
  exact ⟨cs'.reverse, forth, by rw [cost_reverse]; omega⟩

end Grid

/-! ## Scripts and common subsequences -/

/-- Of two ways to select items, the one that selects more gives more items. -/
theorem filterMap_sublist_filterMap {select other : Change α → Option α}
    (more : ∀ c a, select c = some a → other c = some a) (cs : List (Change α)) :
    (cs.filterMap select).Sublist (cs.filterMap other) := by
  induction cs with
  | nil => exact .slnil
  | cons c cs ih =>
      cases selected : select c with
      | some a =>
          rw [List.filterMap_cons_some selected, List.filterMap_cons_some (more c a selected)]
          exact ih.cons_cons a
      | none =>
          rw [List.filterMap_cons_none selected]
          cases others : other c with
          | none => rwa [List.filterMap_cons_none others]
          | some a =>
              rw [List.filterMap_cons_some others]
              exact ih.cons a

theorem kept_sublist_old (cs : List (Change α)) :
    (kept cs).Sublist (cs.filterMap Change.old?) := by
  refine filterMap_sublist_filterMap (fun c a isKept => ?_) cs
  cases c with
  | keep => exact isKept
  | remove | add => contradiction

theorem kept_sublist_new (cs : List (Change α)) :
    (kept cs).Sublist (cs.filterMap Change.new?) := by
  refine filterMap_sublist_filterMap (fun c a isKept => ?_) cs
  cases c with
  | keep => exact isKept
  | remove | add => contradiction

/-- What is not kept has been removed or added. -/
theorem cost_add_kept (cs : List (Change α)) :
    cost cs + 2 * (kept cs).length =
      (cs.filterMap Change.old?).length + (cs.filterMap Change.new?).length := by
  induction cs with
  | nil => rfl
  | cons c cs ih =>
      cases c with
      | keep a =>
          simp only [kept, Change.old?, Change.new?, List.filterMap_cons, List.length_cons,
            cost_cons_keep] at ih ⊢
          omega
      | remove a =>
          simp only [kept, Change.old?, Change.new?, List.filterMap_cons, List.length_cons,
            cost_cons_remove] at ih ⊢
          omega
      | add a =>
          simp only [kept, Change.old?, Change.new?, List.filterMap_cons, List.length_cons,
            cost_cons_add] at ih ⊢
          omega

/-- A common subsequence can be kept. -/
theorem exists_turns_of_sublist {common : List α} (inOld : common.Sublist old)
    (inNew : common.Sublist new) :
    ∃ cs, Turns old new cs ∧ cost cs + 2 * common.length = old.length + new.length := by
  induction inOld generalizing new with
  | slnil => exact ⟨new.map .add, by simpa using Turns.replaced [] new, cost_replaced [] new⟩
  | @cons common old a inOld ih =>
      obtain ⟨cs, turns, total⟩ := ih inNew
      refine ⟨.remove a :: cs, ⟨congrArg (a :: ·) turns.old_eq, turns.new_eq⟩, ?_⟩
      rw [cost_cons_remove, List.length_cons]
      omega
  | @cons_cons common old a inOld ih =>
      obtain ⟨before, after, rfl, mem, inAfter⟩ := List.cons_sublist_iff.mp inNew
      obtain ⟨start, rest, rfl⟩ := List.append_of_mem mem
      obtain ⟨cs, turns, total⟩ := ih (inAfter.trans (List.sublist_append_right rest after))
      have keep : Turns (a :: old) (a :: (rest ++ after)) (.keep a :: cs) :=
        ⟨congrArg (a :: ·) turns.old_eq, congrArg (a :: ·) turns.new_eq⟩
      refine ⟨start.map .add ++ .keep a :: cs, ?_, ?_⟩
      · have both := (Turns.replaced [] start).append keep
        simpa using both
      · have added : cost (start.map Change.add) = start.length := by
          simpa using cost_replaced [] start
        rw [cost_append, cost_cons_keep, added]
        simp only [List.length_append, List.length_cons] at total ⊢
        omega

end EditGuard.Difference
