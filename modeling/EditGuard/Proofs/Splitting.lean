/-!
# Lists that end where their kind does

When a list is cut where its items cease to be of a kind, what comes before the cut and what
comes after it are told from the whole.
-/

namespace EditGuard

variable {α : Type} {p : α → Bool} {items others rest tail : List α}

/-- Items of a kind in front of what does not go on with that kind. -/
theorem takeWhile_append_eq (each : ∀ a ∈ items, p a = true)
    (ends : ∀ a ∈ rest.head?, p a = false) :
    (items ++ rest).takeWhile p = items ∧ (items ++ rest).dropWhile p = rest := by
  rw [List.takeWhile_append_of_pos each, List.dropWhile_append_of_pos each]
  cases rest with
  | nil => exact ⟨List.append_nil _, rfl⟩
  | cons a as =>
      have other : ¬p a = true := by simp [ends a rfl]
      rw [List.takeWhile_cons_of_neg other, List.dropWhile_cons_of_neg other]
      exact ⟨List.append_nil _, rfl⟩

/-- The whole tells the items of a kind and what follows them. -/
theorem append_inj_of_kind (each : ∀ a ∈ items, p a = true) (eachOther : ∀ a ∈ others, p a = true)
    (ends : ∀ a ∈ rest.head?, p a = false) (endsOther : ∀ a ∈ tail.head?, p a = false)
    (same : items ++ rest = others ++ tail) : items = others ∧ rest = tail := by
  obtain ⟨before, after⟩ := takeWhile_append_eq each ends
  obtain ⟨beforeOther, afterOther⟩ := takeWhile_append_eq eachOther endsOther
  rw [same] at before after
  exact ⟨before.symm.trans beforeOther, after.symm.trans afterOther⟩

end EditGuard
