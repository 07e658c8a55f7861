import EditGuard.Proofs.Dictionary
import EditGuard.Variables

/-!
# The names of variables

Variables are kept under folded names, and old names have current ones instead.  Renaming
moves what is kept under an old name to the current name, unless something is kept there.
-/

namespace EditGuard.Variable

/-! ## Folded names -/

theorem toLower_toLower (c : Char) : c.toLower.toLower = c.toLower := by
  by_cases upper : c.val ≥ 'A'.val ∧ c.val ≤ 'Z'.val
  · have lower : ¬(c.toLower.val ≥ 'A'.val ∧ c.toLower.val ≤ 'Z'.val) := by
      have shifted : c.toLower.val = c.val + 32 := congrArg Char.val (dif_pos upper)
      rw [shifted]
      simp only [ge_iff_le, UInt32.le_iff_toNat_le, UInt32.toNat_add] at upper ⊢
      simp at upper ⊢
      omega
    exact dif_neg lower
  · have same : c.toLower = c := dif_neg upper
    rw [same, same]

@[simp]
theorem fold_fold (name : String) : fold (fold name) = fold name := by
  rw [fold, fold, String.map_map]
  exact congrArg (String.map · name) (funext toLower_toLower)

/-- A name of folded characters is folded. -/
theorem fold_ofList {chars : List Char} (folded : chars.map Char.toLower = chars) :
    fold (String.ofList chars) = String.ofList chars := by
  apply String.toList_inj.mp
  rw [fold, String.toList_map, String.toList_ofList, folded]

/-! ## Old and current names -/

theorem replacement?_eq_some_iff {old name : String} :
    replacement? old = some name ↔ (old, name) ∈ renamed := by
  constructor
  · intro replaced
    obtain ⟨before, after, split, -⟩ := List.lookup_eq_some_iff.mp replaced
    rw [split]
    simp
  · have all : ∀ pair ∈ renamed, replacement? pair.1 = some pair.2 := by decide
    exact all (old, name)

/-- A current name is no old one. -/
theorem replacement?_of_replaced {old name : String} (replaced : replacement? old = some name) :
    replacement? name = none := by
  have all : ∀ pair ∈ renamed, replacement? pair.2 = none := by decide
  exact all (old, name) (replacement?_eq_some_iff.mp replaced)

/-- No two old names have the same current name. -/
theorem replacement?_injective {old other name : String} (replaced : replacement? old = some name)
    (replacedOther : replacement? other = some name) : old = other := by
  have all : ∀ pair ∈ renamed, ∀ another ∈ renamed, pair.2 = another.2 → pair.1 = another.1 := by
    decide
  exact all (old, name) (replacement?_eq_some_iff.mp replaced) (other, name)
    (replacement?_eq_some_iff.mp replacedOther) rfl

theorem fold_of_replaced {old name : String} (replaced : replacement? old = some name) :
    fold name = name := by
  have all : ∀ pair ∈ renamed, fold pair.2 = pair.2 := by
    simp only [renamed, List.forall_mem_cons, List.not_mem_nil, false_implies, implies_true,
      and_true]
    and_intros <;> exact fold_ofList rfl
  exact all (old, name) (replacement?_eq_some_iff.mp replaced)

end EditGuard.Variable

namespace EditGuard.Variables

open Variable

/-! ## Variables under folded names

All operations on variables keep them under folded names. -/

/-- Every variable is kept under a folded name. -/
def Folded (vs : Variables) : Prop :=
  ∀ ⦃name entry⦄, vs.find? name = some entry → fold name = name

theorem folded_empty : Folded Dictionary.empty := by
  intro name entry found
  cases found

namespace Folded

variable {vs : Variables}

theorem insert (folded : vs.Folded) {name : String} (isFolded : fold name = name)
    (entry : Entry) : Folded (vs.insert name entry) := by
  intro other kept found
  rw [Dictionary.find?_insert] at found
  by_cases same : other = name
  · rw [same, isFolded]
  · rw [if_neg same] at found
    exact folded found

theorem set (folded : vs.Folded) (name : String) (v : Value) : Folded (vs.set name v) :=
  folded.insert (fold_fold name) _

theorem setPending (folded : vs.Folded) (name : String) (c : Call) :
    Folded (vs.setPending name c) :=
  folded.insert (fold_fold name) _

theorem remove (folded : vs.Folded) (name : String) : Folded (vs.remove name) := by
  intro other entry found
  rw [Variables.remove, Dictionary.find?_erase] at found
  by_cases same : other = fold name
  · rw [if_pos same] at found
    cases found
  · rw [if_neg same] at found
    exact folded found

theorem merge (folded : vs.Folded) {others : Variables} (foldedOthers : others.Folded) :
    Folded (vs.merge others) := by
  have insertAll : ∀ (entries : List (String × Entry)) (ws : Variables), ws.Folded →
      (∀ e ∈ entries, fold e.1 = e.1) →
      Folded (entries.foldl (fun ws e => ws.insert e.1 e.2) ws) := by
    intro entries
    induction entries with
    | nil => exact fun ws foldedSoFar _ => foldedSoFar
    | cons e entries ih =>
        intro ws foldedSoFar each
        obtain ⟨first, rest⟩ := List.forall_mem_cons.mp each
        exact ih _ (foldedSoFar.insert first e.2) rest
  exact insertAll _ vs folded fun e mem => foldedOthers (Dictionary.mem_entries_iff.mp mem)

end Folded

/-! ## Renaming -/

/-- What renaming leaves under a name: what is kept under it, or else under its old name, if
the name is a current one. -/
def Becomes (vs : Variables) (name : String) (entry : Entry) : Prop :=
  replacement? name = none ∧
    (vs.find? name = some entry ∨
      vs.find? name = none ∧ ∃ old, replacement? old = some name ∧ vs.find? old = some entry)

variable {vs : Variables} {old current : String}

/-- What is found when one variable was moved to its current name. -/
theorem find?_renameEntry (vs : Variables) (replaced : replacement? old = some current)
    (name : String) : (vs.renameEntry old).find? name =
      if name = old then none
      else (vs.find? name).or (if name = current then vs.find? old else none) := by
  have moved : currentName old = current := by
    rw [currentName, replaced]
    rfl
  have other : current ≠ old := by
    rintro rfl
    rw [replacement?_of_replaced replaced] at replaced
    cases replaced
  unfold renameEntry
  cases found : vs.find? old with
  | none =>
      by_cases same : name = old
      · simp [same, found]
      · simp [same]
  | some entry =>
      simp only [moved, Dictionary.find?_insertNew, Dictionary.find?_erase]
      by_cases same : name = old
      · subst same
        simp [Ne.symm other]
      · simp [same]

/-- Moving one variable does not change what renaming leaves. -/
theorem becomes_renameEntry_iff (replaced : replacement? old = some current) {name : String}
    {entry : Entry} : (vs.renameEntry old).Becomes name entry ↔ vs.Becomes name entry := by
  refine and_congr_right fun isCurrent => ?_
  have notOld : name ≠ old := by
    rintro rfl
    rw [isCurrent] at replaced
    cases replaced
  rw [find?_renameEntry vs replaced, if_neg notOld]
  by_cases target : name = current
  · -- The old name is the only one that this name replaces, and nothing is left there.
    subst target
    have only : ∀ other, replacement? other = some name ↔ other = old := fun other =>
      ⟨fun replacedOther => replacement?_injective replacedOther replaced, fun same => same ▸ replaced⟩
    simp only [if_true, only, exists_eq_left, find?_renameEntry vs replaced]
    cases vs.find? name <;> simp
  · have kept : ∀ other, replacement? other = some name →
        (vs.renameEntry old).find? other = vs.find? other := by
      intro other replacedOther
      have notSame : other ≠ old := by
        rintro rfl
        rw [replaced] at replacedOther
        exact target (Option.some.inj replacedOther).symm
      have notCurrent : other ≠ current := by
        rintro rfl
        rw [replacement?_of_replaced replaced] at replacedOther
        cases replacedOther
      rw [find?_renameEntry vs replaced, if_neg notSame, if_neg notCurrent, Option.or_none]
    rw [if_neg target, Option.or_none]
    refine or_congr_right (and_congr_right fun _ => exists_congr fun other => ?_)
    exact and_congr_right fun replacedOther => by rw [kept other replacedOther]

/-- Moving variables does not bring old names back. -/
theorem find?_renameEntry_of_replaced (vs : Variables) (replaced : replacement? old = some current)
    {name : String} (isOld : (replacement? name).isSome) :
    (vs.renameEntry old).find? name = if name = old then none else vs.find? name := by
  have notCurrent : name ≠ current := by
    rintro rfl
    rw [replacement?_of_replaced replaced] at isOld
    cases isOld
  rw [find?_renameEntry vs replaced, if_neg notCurrent, Option.or_none]

theorem becomes_foldl_renameEntry_iff {names : List String}
    (old : ∀ name ∈ names, (replacement? name).isSome) (vs : Variables) {name : String}
    {entry : Entry} : (names.foldl renameEntry vs).Becomes name entry ↔ vs.Becomes name entry := by
  induction names generalizing vs with
  | nil => rfl
  | cons first names ih =>
      obtain ⟨current, replaced⟩ := Option.isSome_iff_exists.mp (old first List.mem_cons_self)
      rw [List.foldl_cons, ih fun name mem => old name (List.mem_cons_of_mem first mem)]
      exact becomes_renameEntry_iff replaced

theorem find?_foldl_renameEntry {names : List String}
    (old : ∀ name ∈ names, (replacement? name).isSome) (vs : Variables) {name : String}
    (isOld : (replacement? name).isSome) :
    (names.foldl renameEntry vs).find? name = if name ∈ names then none else vs.find? name := by
  induction names generalizing vs with
  | nil => rfl
  | cons first names ih =>
      obtain ⟨current, replaced⟩ := Option.isSome_iff_exists.mp (old first List.mem_cons_self)
      rw [List.foldl_cons, ih fun name mem => old name (List.mem_cons_of_mem first mem),
        find?_renameEntry_of_replaced vs replaced isOld]
      by_cases here : name = first
      · simp [here]
      · simp [here]

/-- After renaming, nothing is kept under an old name. -/
theorem find?_renameAll_of_isSome (vs : Variables) {name : String}
    (isOld : (replacement? name).isSome) : vs.renameAll.find? name = none := by
  rw [renameAll, find?_foldl_renameEntry (fun _ mem => (List.mem_filter.mp mem).2) vs isOld]
  by_cases kept : name ∈ vs.keys
  · rw [if_pos (List.mem_filter.mpr ⟨kept, isOld⟩)]
  · rw [if_neg fun mem => kept (List.mem_filter.mp mem).1]
    exact Option.eq_none_iff_forall_ne_some.mpr fun entry found =>
      kept (Dictionary.mem_keys_iff.mpr ⟨entry, found⟩)

/-- Renaming leaves what was kept under a current name, or else under its old name, and
nothing else. -/
theorem find?_renameAll_eq_some_iff {name : String} {entry : Entry} :
    vs.renameAll.find? name = some entry ↔ vs.Becomes name entry := by
  rw [← becomes_foldl_renameEntry_iff (fun _ mem => (List.mem_filter.mp mem).2) vs, ← renameAll]
  constructor
  · intro found
    cases isOld : replacement? name with
    | none => exact ⟨isOld, .inl found⟩
    | some current =>
        rw [find?_renameAll_of_isSome vs (isOld ▸ rfl)] at found
        cases found
  · rintro ⟨-, found | ⟨-, old, replaced, found⟩⟩
    · exact found
    · rw [find?_renameAll_of_isSome vs (replaced ▸ rfl)] at found
      cases found

theorem Folded.renameAll (folded : vs.Folded) : vs.renameAll.Folded := by
  intro name entry found
  obtain ⟨-, kept | ⟨-, old, replaced, -⟩⟩ := find?_renameAll_eq_some_iff.mp found
  · exact folded kept
  · exact fold_of_replaced replaced

end EditGuard.Variables
