import Mathlib.Data.List.Sort

/-!
# Sorting by comparisons

Lists that are sorted by a comparison are in its order, and strictly so if no two of
their keys are equal.  A list in strict order is determined by its items.
-/

namespace EditGuard

variable {κ α : Type} {cmp : κ → κ → Ordering}

theorem isLE_or_isLE [Std.OrientedCmp cmp] (a b : κ) :
    ((cmp a b).isLE || (cmp b a).isLE) = true := by
  cases order : cmp a b with
  | lt => rfl
  | eq => rfl
  | gt =>
      rw [Std.OrientedCmp.gt_iff_lt.mp order]
      rfl

/-- Sorting by keys that are distinct gives a strict order. -/
theorem pairwise_lt_mergeSort [Std.TransCmp cmp] [Std.LawfulEqCmp cmp] (key : α → κ)
    {xs : List α} (distinct : (xs.map key).Nodup) :
    (xs.mergeSort fun a b => (cmp (key a) (key b)).isLE).Pairwise fun a b =>
      cmp (key a) (key b) = .lt := by
  have sorted : (xs.mergeSort fun a b => (cmp (key a) (key b)).isLE).Pairwise fun a b =>
      (cmp (key a) (key b)).isLE = true :=
    List.pairwise_mergeSort (fun _ _ _ => Std.TransCmp.isLE_trans)
      (fun a b => isLE_or_isLE (key a) (key b)) xs
  have unique := ((List.mergeSort_perm xs fun a b => (cmp (key a) (key b)).isLE).map
    key).nodup_iff.mpr distinct
  rw [List.Nodup, List.pairwise_map] at unique
  apply (sorted.and unique).imp
  rintro a b ⟨least, different⟩
  cases order : cmp (key a) (key b) with
  | lt => rfl
  | eq => exact absurd (Std.LawfulEqCmp.eq_of_compare order) different
  | gt =>
      rw [order] at least
      contradiction

/-- Lists in strict order are equal if they have the same items. -/
theorem eq_of_pairwise_lt [Std.TransCmp cmp] (key : α → κ) {xs ys : List α}
    (ordered : xs.Pairwise fun a b => cmp (key a) (key b) = .lt)
    (orderedToo : ys.Pairwise fun a b => cmp (key a) (key b) = .lt)
    (same : ∀ a, a ∈ xs ↔ a ∈ ys) : xs = ys := by
  have notBoth : ∀ a b, cmp (key a) (key b) = .lt → cmp (key b) (key a) ≠ .lt := by
    intro a b less more
    rw [Std.OrientedCmp.gt_iff_lt.mpr less] at more
    cases more
  have : Std.Irrefl fun a b => cmp (key a) (key b) = .lt := ⟨fun a less => notBoth a a less less⟩
  have : Std.Antisymm fun a b => cmp (key a) (key b) = .lt :=
    ⟨fun a b less more => absurd more (notBoth a b less)⟩
  exact ordered.eq_of_mem_iff orderedToo same

/-- Lists in an order are equal if they have the same items of each kind in the same order, and
only items of one kind may stand in either order. -/
theorem eq_of_pairwise_of_filter_eq [BEq κ] [LawfulBEq κ] {r : α → α → Prop} (kind : α → κ)
    (alike : ∀ a b, r a b → r b a → kind a = kind b) {xs ys : List α} (ordered : xs.Pairwise r)
    (orderedToo : ys.Pairwise r)
    (same : ∀ k, xs.filter (kind · == k) = ys.filter (kind · == k)) : xs = ys := by
  have inside : ∀ {xs ys : List α}, (∀ k, xs.filter (kind · == k) = ys.filter (kind · == k)) →
      ∀ {a}, a ∈ xs → a ∈ ys := by
    intro xs ys same a mem
    have found : a ∈ xs.filter (kind · == kind a) :=
      List.mem_filter.mpr ⟨mem, beq_self_eq_true _⟩
    rw [same] at found
    exact (List.mem_filter.mp found).1
  have sameToo : ∀ k, ys.filter (kind · == k) = xs.filter (kind · == k) := fun k => (same k).symm
  induction xs generalizing ys with
  | nil =>
      cases ys with
      | nil => rfl
      | cons y ys => cases inside sameToo List.mem_cons_self
  | cons x xs ih =>
      cases ys with
      | nil => cases inside same List.mem_cons_self
      | cons y ys =>
          obtain ⟨first, rest⟩ := List.pairwise_cons.mp ordered
          obtain ⟨firstToo, restToo⟩ := List.pairwise_cons.mp orderedToo
          have heads : x = y := by
            rcases List.mem_cons.mp (inside same List.mem_cons_self) with heads | later
            · exact heads
            · rcases List.mem_cons.mp (inside sameToo List.mem_cons_self) with heads | laterToo
              · exact heads.symm
              · have kinds := alike x y (first y laterToo) (firstToo x later)
                have both := same (kind x)
                simp only [List.filter_cons, kinds, beq_self_eq_true, if_true] at both
                exact (List.cons.inj both).1
          subst heads
          have tails (k : κ) : xs.filter (kind · == k) = ys.filter (kind · == k) := by
            have both := same k
            rw [List.filter_cons, List.filter_cons] at both
            split at both
            · exact (List.cons.inj both).2
            · exact both
          rw [ih rest restToo tails fun k => (tails k).symm]

/-- A list that is in an order starts with the items that come before all others. -/
theorem eq_filter_append_filter {xs : List α} {r : α → α → Prop} {first : α → Bool}
    (ordered : xs.Pairwise r) (down : ∀ a b, r a b → first b = true → first a = true) :
    xs = xs.filter first ++ xs.filter fun a => !first a := by
  induction xs with
  | nil => rfl
  | cons x xs ih =>
      obtain ⟨before, rest⟩ := List.pairwise_cons.mp ordered
      cases isFirst : first x with
      | true =>
          simp only [List.filter_cons, isFirst, if_true, Bool.not_true, Bool.false_eq_true,
            if_false, List.cons_append]
          rw [← ih rest]
      | false =>
          have none : xs.filter first = [] := by
            rw [List.filter_eq_nil_iff]
            intro y mem later
            have early := down x y (before y mem) later
            rw [isFirst] at early
            contradiction
          have all : (xs.filter fun a => !first a) = xs := by
            rw [List.filter_eq_self]
            intro y mem
            cases later : first y with
            | false => rfl
            | true => exact absurd later (List.filter_eq_nil_iff.mp none y mem)
          simp [isFirst, none, all]

/-- There is at most one item of a key in a list whose keys are distinct. -/
theorem exists_toList_of_keys {xs : List α} {key : α → κ} {k : κ}
    (distinct : (xs.map key).Nodup) (same : ∀ a ∈ xs, key a = k) :
    ∃ a? : Option α, xs = a?.toList := by
  cases xs with
  | nil => exact ⟨none, rfl⟩
  | cons a rest =>
      cases rest with
      | nil => exact ⟨some a, rfl⟩
      | cons b rest =>
          have keys : key a = key b := by
            rw [same a List.mem_cons_self, same b (List.mem_cons_of_mem _ List.mem_cons_self)]
          have different := (List.pairwise_cons.mp distinct).1 (key b)
            (List.mem_map.mpr ⟨b, List.mem_cons_self, rfl⟩)
          exact absurd keys different

/-- In a list whose keys are distinct an item is the only one of its key. -/
theorem filter_key_eq_singleton [BEq κ] [LawfulBEq κ] {xs : List α} {key : α → κ}
    (distinct : (xs.map key).Nodup) {x : α} (mem : x ∈ xs) :
    xs.filter (fun a => key a == key x) = [x] := by
  obtain ⟨before, after, rfl⟩ := List.append_of_mem mem
  rw [List.map_append, List.map_cons] at distinct
  obtain ⟨-, distinctAfter, apart⟩ := List.nodup_append.mp distinct
  have notBefore : before.filter (fun a => key a == key x) = [] := by
    rw [List.filter_eq_nil_iff]
    intro a inside same
    exact apart _ (List.mem_map_of_mem inside) _ List.mem_cons_self (eq_of_beq same)
  have notAfter : after.filter (fun a => key a == key x) = [] := by
    rw [List.filter_eq_nil_iff]
    intro a inside same
    exact (List.nodup_cons.mp distinctAfter).1
      (eq_of_beq same ▸ List.mem_map_of_mem inside)
  rw [List.filter_append, List.filter_cons, notBefore, notAfter, beq_self_eq_true, if_pos rfl]
  rfl

/-- Sorting does not change the items of a kind that are in order before. -/
theorem filter_mergeSort {le : α → α → Bool}
    (trans : ∀ a b c, le a b = true → le b c = true → le a c = true)
    (total : ∀ a b, (le a b || le b a) = true) {xs : List α} {kind : α → Bool}
    (ordered : (xs.filter kind).Pairwise fun a b => le a b = true) :
    (xs.mergeSort le).filter kind = xs.filter kind := by
  have stable : (xs.filter kind).Sublist (xs.mergeSort le) :=
    List.sublist_mergeSort trans total ordered List.filter_sublist
  have inside := stable.filter kind
  have all : (xs.filter kind).filter kind = xs.filter kind := by
    rw [List.filter_filter]
    simp only [Bool.and_self]
  rw [all] at inside
  exact (inside.eq_of_length ((List.mergeSort_perm xs le).filter kind).length_eq.symm).symm

end EditGuard
