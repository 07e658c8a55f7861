import EditGuard.Function

/-!
# What pattern caches cannot change

A cache that holds nothing but what its texts are read as gives what reading the text
would give.  Functions and operators that read patterns through such a cache do not
depend on what it holds.
-/

namespace EditGuard

namespace Pattern.Cache

/-- Every pattern in the cache is what its text is read as. -/
def Sound (c : Cache) : Prop :=
  ∀ entry ∈ c.entries, Pattern.parse entry.1.2 entry.1.1 = .ok entry.2

theorem sound_empty (capacity : Nat) : (empty capacity).Sound := by
  intro entry mem
  cases mem

/-- A use of a cache that has the same outcome for all sound caches and keeps them
sound. -/
def Transparent {ε α : Type} (use : Cache → Except ε (α × Cache)) : Prop :=
  ∃ outcome : Except ε α, ∀ c : Cache, c.Sound →
    match outcome with
    | .ok a => ∃ d : Cache, use c = .ok (a, d) ∧ d.Sound
    | .error e => use c = .error e

/-- A pattern that was read by `parse` may be put into a sound cache. -/
theorem Sound.cons {capacity : Nat} {entries : List ((String × Bool) × Pattern)} {text : String}
    {insensitive : Bool} {p : Pattern} (parsed : Pattern.parse insensitive text = .ok p)
    (kept : ∀ entry ∈ entries, Pattern.parse entry.1.2 entry.1.1 = .ok entry.2) :
    Sound ⟨capacity, ((text, insensitive), p) :: entries⟩ := by
  intro entry mem
  rcases List.mem_cons.mp mem with rfl | mem
  · exact parsed
  · exact kept entry mem

theorem transparent_get (text : String) (insensitive : Bool) :
    Transparent fun c => c.get text insensitive := by
  refine ⟨Pattern.parse insensitive text, fun c sound => ?_⟩
  cases found : c.entries.lookup (text, insensitive) with
  | some p =>
      obtain ⟨before, after, split, -⟩ := List.lookup_eq_some_iff.mp found
      have mem : ((text, insensitive), p) ∈ c.entries := by
        rw [split]
        exact List.mem_append_right _ List.mem_cons_self
      have parsed : Pattern.parse insensitive text = .ok p := sound _ mem
      rw [parsed]
      refine ⟨_, by simp only [Cache.get, found]; rfl, ?_⟩
      exact .cons parsed fun entry mem => sound entry (List.mem_filter.mp mem).1
  | none =>
      cases parsed : Pattern.parse insensitive text with
      | error e => simp only [Cache.get, found, parsed, Except.map]
      | ok p =>
          refine ⟨_, by simp only [Cache.get, found, parsed, Except.map]; rfl, ?_⟩
          exact .cons parsed fun entry mem => sound entry (List.mem_of_mem_take mem)

/-- What a sound cache gives was read, and the cache stays sound. -/
theorem Sound.get {c d : Cache} {text : String} {insensitive : Bool} {p : Pattern}
    (sound : c.Sound) (got : c.get text insensitive = .ok (p, d)) :
    Pattern.parse insensitive text = .ok p ∧ d.Sound := by
  unfold Cache.get at got
  cases found : c.entries.lookup (text, insensitive) with
  | some q =>
      simp only [found] at got
      cases got
      obtain ⟨before, after, split, -⟩ := List.lookup_eq_some_iff.mp found
      have parsed : Pattern.parse insensitive text = .ok p := by
        apply sound ((text, insensitive), p)
        rw [split]
        exact List.mem_append_right _ List.mem_cons_self
      exact ⟨parsed, .cons parsed fun entry mem => sound entry (List.mem_filter.mp mem).1⟩
  | none =>
      cases parsed : Pattern.parse insensitive text with
      | error e =>
          simp only [found, parsed] at got
          cases got
      | ok q =>
          simp only [found, parsed] at got
          cases got
          exact ⟨rfl, .cons parsed fun entry mem => sound entry (List.mem_of_mem_take mem)⟩

/-- A text that can be read gives a pattern from every cache. -/
theorem exists_get_of_parse {text : String} {insensitive : Bool} {p : Pattern}
    (parsed : Pattern.parse insensitive text = .ok p) (c : Cache) :
    ∃ q d, c.get text insensitive = .ok (q, d) := by
  cases found : c.entries.lookup (text, insensitive) with
  | some q => exact ⟨q, _, by simp only [Cache.get, found]; rfl⟩
  | none => exact ⟨p, _, by simp only [Cache.get, found, parsed, Except.map]; rfl⟩

theorem transparent_unused {ε α : Type} (outcome : Except ε α) :
    Transparent fun c => outcome.map fun a => (a, c) := by
  refine ⟨outcome, fun c sound => ?_⟩
  cases outcome with
  | ok a => exact ⟨c, rfl, sound⟩
  | error e => rfl

/-- Reading a pattern and going on with it. -/
theorem transparent_withPattern {ε α : Type} (text : String) (insensitive : Bool)
    (bad : PatternError → ε) (f : Pattern → α) :
    Transparent fun c =>
      match c.get text insensitive with
      | .error e => .error (bad e)
      | .ok (p, d) => .ok (f p, d) := by
  obtain ⟨outcome, gets⟩ := transparent_get text insensitive
  refine ⟨(outcome.map f).mapError bad, fun c sound => ?_⟩
  have got := gets c sound
  cases outcome with
  | ok p =>
      obtain ⟨d, got, sound⟩ := got
      simp only [got]
      exact ⟨d, rfl, sound⟩
  | error e =>
      simp only at got
      simp only [got]
      rfl

end Pattern.Cache

namespace Function

open Pattern.Cache (Transparent transparent_unused transparent_withPattern)

theorem Body.transparent_apply (body : Body) (args : List Value) :
    Transparent fun c => body.apply args c := by
  cases body with
  | total f => exact transparent_unused (.ok (f args))
  | checked f => exact transparent_unused (f args)
  | withPattern argument f =>
      let text := textArg args argument
      let bad (e : Pattern.PatternError) : Refusal := ⟨argument, badPattern text e⟩
      exact transparent_withPattern text false bad fun p => f p args
  | setter => exact transparent_unused (.ok (args.getD 1 .null))

theorem transparent_applyKeyword (op : Rule.KeywordOp) (left right : Value) :
    Transparent fun c => applyKeyword op left right c := by
  cases op with
  | within | contains | like => exact transparent_unused (.ok _)
  | rlike | irlike =>
      exact transparent_withPattern right.toText _ (badPattern right.toText)
        fun p => p.isMatch left.toText

end Function

end EditGuard
