import EditGuard.Dictionary

/-!
# Laws of dictionaries

The entries of a dictionary and what is found in it are the same thing: an entry is
found under its key, and no key has two entries.
-/

namespace EditGuard.Dictionary

variable {κ α : Type} [Ord κ] [Std.TransOrd κ] [Std.LawfulEqOrd κ]

omit [Std.LawfulEqOrd κ] in
theorem ne_of_compare_lt {k l : κ} (less : compare k l = .lt) : k ≠ l := by
  rintro rfl
  have same : compare k k = .eq := Std.ReflCmp.compare_self
  rw [same] at less
  contradiction

/-- An entry is found under its key, and nothing else is. -/
theorem mem_entries_iff {d : Dictionary κ α} {k : κ} {a : α} :
    (k, a) ∈ d.entries ↔ d.find? k = some a := by
  rcases d with ⟨entries, ordered⟩
  rw [find?]
  dsimp only
  induction entries with
  | nil => simp
  | cons e es ih =>
      obtain ⟨first, rest⟩ := List.pairwise_cons.mp ordered
      rw [List.mem_cons, List.find?_cons]
      cases here : compare k e.1 == .eq with
      | true =>
          have key : k = e.1 := Std.LawfulEqCmp.eq_of_compare (beq_iff_eq.mp here)
          have notLater : (k, a) ∉ es := fun later => ne_of_compare_lt (first _ later) key.symm
          simp only [notLater, or_false, Option.map_some, Option.some.injEq]
          constructor
          · rintro rfl
            rfl
          · rintro rfl
            rw [key]
      | false =>
          have other : (k, a) ≠ e := by
            rintro rfl
            have same : compare k k = .eq := Std.ReflCmp.compare_self
            rw [same] at here
            contradiction
          simp only [other, false_or]
          exact ih rest

omit [Std.LawfulEqOrd κ] in
/-- No key has two entries. -/
theorem nodup_keys (d : Dictionary κ α) : d.keys.Nodup := by
  rw [keys, List.Nodup, List.pairwise_map]
  exact d.ordered.imp ne_of_compare_lt

/-- Dictionaries in which the same items are found are equal. -/
theorem eq_of_find? {d e : Dictionary κ α} (same : ∀ k, d.find? k = e.find? k) : d = e := by
  have nodup (d : Dictionary κ α) : d.entries.Nodup :=
    List.Pairwise.of_map Prod.fst (fun _ _ different same => different (congrArg Prod.fst same))
      d.nodup_keys
  have members : d.entries.Perm e.entries := by
    rw [List.perm_ext_iff_of_nodup (nodup d) (nodup e)]
    rintro ⟨k, a⟩
    rw [mem_entries_iff, mem_entries_iff, same]
  have entries : d.entries = e.entries := by
    refine List.Perm.eq_of_pairwise ?_ d.ordered e.ordered members
    intro a b _ _ less more
    rw [Std.OrientedCmp.gt_iff_lt.mpr less] at more
    contradiction
  cases d
  cases e
  cases entries
  rfl

omit [Std.TransOrd κ] [Std.LawfulEqOrd κ] in
theorem insertEntry_of_last {k : κ} {a : α} {es : List (κ × α)}
    (last : ∀ e ∈ es, compare k e.1 = .gt) : insertEntry k a es = es ++ [(k, a)] := by
  induction es with
  | nil => rfl
  | cons e es ih =>
      rw [insertEntry, last e List.mem_cons_self,
        ih fun e mem => last e (List.mem_cons_of_mem _ mem)]
      rfl

/-- Entries that are in order already are the entries of their dictionary. -/
theorem entries_ofList {es : List (κ × α)}
    (ordered : es.Pairwise fun a b => compare a.1 b.1 = .lt) : (ofList es).entries = es := by
  have insertAll : ∀ (es : List (κ × α)) (d : Dictionary κ α),
      (d.entries ++ es).Pairwise (fun a b => compare a.1 b.1 = .lt) →
      (es.foldl (fun d e => d.insert e.1 e.2) d).entries = d.entries ++ es := by
    intro es
    induction es with
    | nil =>
        intro d _
        exact (List.append_nil _).symm
    | cons e es ih =>
        intro d ordered
        have last : ∀ earlier ∈ d.entries, compare e.1 earlier.1 = .gt := by
          intro earlier mem
          exact Std.OrientedCmp.gt_iff_lt.mpr
            ((List.pairwise_append.mp ordered).2.2 earlier mem e List.mem_cons_self)
        have inserted : (d.insert e.1 e.2).entries = d.entries ++ [e] := insertEntry_of_last last
        rw [List.foldl_cons, ih, inserted, List.append_assoc]
        · rfl
        · rw [inserted, List.append_assoc]
          exact ordered
  exact insertAll es empty ordered

/-! ## Keys that are there -/

theorem mem_keys_iff {d : Dictionary κ α} {k : κ} : k ∈ d.keys ↔ ∃ a, d.find? k = some a := by
  rw [keys, List.mem_map]
  constructor
  · rintro ⟨⟨l, a⟩, mem, rfl⟩
    exact ⟨a, mem_entries_iff.mp mem⟩
  · rintro ⟨a, found⟩
    exact ⟨(k, a), mem_entries_iff.mpr found, rfl⟩

variable [DecidableEq κ]

/-- After taking away a key, nothing is found under it and all else is as before. -/
theorem find?_erase (d : Dictionary κ α) (k l : κ) :
    (d.erase k).find? l = if l = k then none else d.find? l := by
  apply Option.ext
  intro a
  rw [← mem_entries_iff, erase, filter, List.mem_filter]
  by_cases same : l = k
  · simp [same]
  · simp [Ne.symm same, same, mem_entries_iff]

/-- After setting the item of a key that may have one already, it has one. -/
theorem find?_insertNew (d : Dictionary κ α) (k l : κ) (a : α) :
    (d.insertNew k a).find? l = (d.find? l).or (if l = k then some a else none) := by
  rw [insertNew, contains]
  by_cases same : l = k
  · subst same
    cases found : d.find? l with
    | none => simp [find?_insert]
    | some b => simp [found]
  · cases found : d.find? k with
    | none => simp [find?_insert, same]
    | some b => simp [same]

theorem contains_insert [BEq κ] [LawfulBEq κ] (d : Dictionary κ α) (k l : κ) (a : α) :
    (d.insert k a).contains l = (l == k || d.contains l) := by
  rw [contains, find?_insert, contains]
  by_cases same : l = k
  · simp [same]
  · simp [same]

theorem contains_insertNew [BEq κ] [LawfulBEq κ] (d : Dictionary κ α) (k l : κ) (a : α) :
    (d.insertNew k a).contains l = (l == k || d.contains l) := by
  rw [contains, find?_insertNew, contains]
  by_cases same : l = k
  · simp [same]
  · simp [same]

end EditGuard.Dictionary
