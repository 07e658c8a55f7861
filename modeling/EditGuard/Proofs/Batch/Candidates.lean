import EditGuard.Batch
import EditGuard.Proofs.Dictionary
import EditGuard.Proofs.Ordering

/-!
# The filters of a batch in order

The filters that are evaluated are those that are enabled, not deleted and have an
identity.  If no two of them have the same identity, then they are evaluated in the
order of their identities, and their profiles are kept as they come.
-/

namespace EditGuard.Batch

/-- The filters that are evaluated, with their identities, as they are given. -/
def runnable (filters : List Filter) : List (FilterId × Filter) :=
  filters.filterMap fun f => if f.isRunnable then f.id.map fun id => (id, f) else none

theorem candidates_eq (filters : List Filter) :
    candidates filters = (runnable filters).mergeSort fun a b => (compare a.1 b.1).isLE :=
  rfl

theorem mem_runnable {filters : List Filter} {id : FilterId} {f : Filter} :
    (id, f) ∈ runnable filters ↔ f ∈ filters ∧ f.isRunnable = true ∧ f.id = some id := by
  rw [runnable, List.mem_filterMap]
  constructor
  · rintro ⟨g, mem, named⟩
    by_cases isRunnable : g.isRunnable
    · rw [if_pos isRunnable] at named
      obtain ⟨other, found, pair⟩ := Option.map_eq_some_iff.mp named
      cases pair
      exact ⟨mem, isRunnable, found⟩
    · rw [if_neg isRunnable] at named
      contradiction
  · rintro ⟨mem, isRunnable, found⟩
    refine ⟨f, mem, ?_⟩
    rw [if_pos isRunnable, found]
    rfl

/-- A filter is a candidate if it is given, runnable, and has the identity. -/
theorem mem_candidates {filters : List Filter} {id : FilterId} {f : Filter} :
    (id, f) ∈ candidates filters ↔ f ∈ filters ∧ f.isRunnable = true ∧ f.id = some id := by
  rw [candidates_eq, List.mem_mergeSort, mem_runnable]

theorem candidates_perm (filters : List Filter) :
    (candidates filters).Perm (runnable filters) :=
  List.mergeSort_perm _ _

theorem ids_runnable_sublist (filters : List Filter) :
    ((runnable filters).map Prod.fst).Sublist (filters.filterMap Filter.id) := by
  induction filters with
  | nil => exact .slnil
  | cons f fs ih =>
      simp only [runnable, List.filterMap_cons] at ih ⊢
      cases f.id with
      | none =>
          simp only [Option.map_none, ite_self]
          exact ih
      | some id =>
          by_cases isRunnable : f.isRunnable
          · simp only [if_pos isRunnable]
            exact ih.cons_cons id
          · simp only [if_neg isRunnable]
            exact ih.cons id

/-- Filters with distinct identities are candidates in strictly ascending order. -/
theorem ordered_candidates {filters : List Filter}
    (distinct : (filters.filterMap Filter.id).Nodup) :
    (candidates filters).Pairwise fun a b => compare a.1 b.1 = .lt := by
  exact pairwise_lt_mergeSort Prod.fst (distinct.sublist (ids_runnable_sublist filters))

theorem candidates_singleton {id : FilterId} {f : Filter} (isRunnable : f.isRunnable = true)
    (named : f.id = some id) : candidates [f] = [(id, f)] := by
  have only : runnable [f] = [(id, f)] := by
    simp only [runnable, List.filterMap_cons, if_pos isRunnable, named]
    rfl
  rw [candidates_eq, only, List.mergeSort_singleton]

end EditGuard.Batch
