import EditGuard.Value

/-!
# Comparing values

Strict equality asks for the same kind.  The loose order converts: two texts
that are both numerals compare as numbers, a missing value compares with a text
as the empty text and with all else as a truth value, and a list is greater
than anything that is no list.
-/

namespace EditGuard.Value

/-- The order of texts by code points. -/
def compareText (a b : String) : Ordering :=
  if a < b then .lt else if a = b then .eq else .gt

/-- The order of two texts, as numbers if both are numerals. -/
def compareNumeral? (a b : String) : Option Ordering :=
  match Number.ofText? a, Number.ofText? b with
  | some x, some y => x.compare? y
  | _, _ => some (compareText a b)

/-- The order of truth values: false comes first. -/
def compareBool (a b : Bool) : Ordering :=
  if a = b then .eq else if b then .lt else .gt

mutual

/-- The loose order of two values; none where a NaN decides. -/
def compare? : Value → Value → Option Ordering
  | undefined, text b => compareNumeral? "" b
  | null, text b => compareNumeral? "" b
  | text a, undefined => compareNumeral? a ""
  | text a, null => compareNumeral? a ""
  | undefined, b => some (compareBool false b.toBool)
  | null, b => some (compareBool false b.toBool)
  | bool a, b => some (compareBool a b.toBool)
  | a, undefined => some (compareBool a.toBool false)
  | a, null => some (compareBool a.toBool false)
  | a, bool b => some (compareBool a.toBool b)
  | text a, text b => compareNumeral? a b
  | list as, list bs =>
      if as.length = bs.length then compareItems? as bs
      else some (Ord.compare as.length bs.length)
  | list _, _ => some .gt
  | _, list _ => some .lt
  | a, b => a.toNumber.compare? b.toNumber

/-- The first order that is not equality decides. -/
def compareItems? : List Value → List Value → Option Ordering
  | a :: as, b :: bs =>
      match compare? a b with
      | some .eq => compareItems? as bs
      | order => order
  | _, _ => some .eq

end

mutual

/-- Loose equality.  Lists are equal item by item. -/
def looseEq : Value → Value → Bool
  | list as, list bs => as.length == bs.length && looseEqItems as bs
  | a, b => compare? a b == some .eq

def looseEqItems : List Value → List Value → Bool
  | a :: as, b :: bs => looseEq a b && looseEqItems as bs
  | _, _ => true

end

mutual

/-- Strict equality: the same kind and the same value. -/
def strictEq : Value → Value → Bool
  | undefined, undefined => true
  | null, null => true
  | bool a, bool b => a == b
  | int a, int b => a == b
  | float a, float b => a == b
  | text a, text b => a == b
  | list as, list bs => as.length == bs.length && strictEqItems as bs
  | _, _ => false

def strictEqItems : List Value → List Value → Bool
  | a :: as, b :: bs => strictEq a b && strictEqItems as bs
  | _, _ => true

end

end EditGuard.Value
