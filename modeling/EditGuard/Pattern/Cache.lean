import EditGuard.Pattern

/-!
# A cache of patterns

The patterns that were read most recently, by their texts and whether case
matters.  A pattern that cannot be read is not kept.
-/

namespace EditGuard.Pattern

/-- Patterns that have been read, the one used last first. -/
structure Cache where
  capacity : Nat
  entries : List ((String × Bool) × Pattern)
deriving Inhabited

namespace Cache

/-- An empty cache.  There is room for one pattern at least. -/
def empty (capacity : Nat) : Cache :=
  ⟨max capacity 1, []⟩

/-- The pattern of a text, and the cache after its use. -/
def get (c : Cache) (text : String) (insensitive : Bool) :
    Except PatternError (Pattern × Cache) :=
  let key := (text, insensitive)
  match c.entries.lookup key with
  | some p => .ok (p, { c with entries := (key, p) :: c.entries.filter (·.1 != key) })
  | none =>
      (Pattern.parse insensitive text).map fun p =>
        (p, { c with entries := (key, p) :: c.entries.take (c.capacity - 1) })

def size (c : Cache) : Nat :=
  c.entries.length

end Cache

end EditGuard.Pattern
