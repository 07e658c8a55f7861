/-!
# Blank characters

The characters that separate words: the code points with the Unicode property
`White_Space`.  The class holds every character that the core library counts
as whitespace.
-/

namespace EditGuard.Text

/-- The Unicode property `White_Space`. -/
def isBlank (c : Char) : Bool :=
  let n := c.toNat
  (9 ≤ n && n ≤ 13) || n == 0x20 || n == 0x85 || n == 0xA0 || n == 0x1680 ||
    (0x2000 ≤ n && n ≤ 0x200A) || n == 0x2028 || n == 0x2029 || n == 0x202F ||
    n == 0x205F || n == 0x3000

/-- Every character that the core library counts as whitespace is blank. -/
theorem isBlank_of_isWhitespace {c : Char} (h : c.isWhitespace = true) :
    isBlank c = true := by
  have cases : c = ' ' ∨ c = '\t' ∨ c = '\r' ∨ c = '\n' := by
    simpa [Char.isWhitespace, or_assoc] using h
  rcases cases with rfl | rfl | rfl | rfl <;> decide

/-- A visible ASCII character is not blank. -/
theorem isBlank_eq_false {c : Char} (above : 0x20 < c.toNat) (below : c.toNat < 0x80) :
    isBlank c = false := by
  simp only [isBlank, Bool.or_eq_false_iff, Bool.and_eq_false_iff, beq_eq_false_iff_ne,
    decide_eq_false_iff_not]
  omega

/-- Drop blanks at both ends. -/
def trim (cs : List Char) : List Char :=
  ((cs.dropWhile isBlank).reverse.dropWhile isBlank).reverse

/-- A text without blanks has none at its ends. -/
theorem trim_of_noBlank {cs : List Char} (noBlank : ∀ c ∈ cs, isBlank c = false) :
    trim cs = cs := by
  have kept (cs : List Char) (noBlank : ∀ c ∈ cs, isBlank c = false) :
      cs.dropWhile isBlank = cs := by
    cases cs with
    | nil => rfl
    | cons c cs =>
        have first := noBlank c List.mem_cons_self
        exact List.dropWhile_cons_of_neg (by simp [first])
  rw [trim, kept cs noBlank, kept cs.reverse fun c mem => noBlank c (List.mem_reverse.mp mem),
    List.reverse_reverse]

end EditGuard.Text
