import EditGuard.Json
import EditGuard.Proofs.Decimal.Shortest
import EditGuard.Proofs.Splitting

/-!
# The texts of floating point numbers

The text of a finite floating point number in a document denotes a fraction, from which the
number can be told.
-/

namespace EditGuard.Json

open Decimal

/-! ## What a text denotes -/

/-- The digits after a decimal point, and what follows them. -/
def fractionOf : List Char → List Char × List Char
  | '.' :: cs => (cs.takeWhile Char.isDigit, cs.dropWhile Char.isDigit)
  | cs => ([], cs)

/-- The exponent after its mark. -/
def exponentOf : List Char → Int
  | 'e' :: '+' :: cs => Nat.ofDigitChars 10 cs 0
  | 'e' :: '-' :: cs => -Nat.ofDigitChars 10 cs 0
  | _ => 0

/-- The fraction that a number without a sign denotes. -/
def denote (text : List Char) : ℚ :=
  let fraction := fractionOf (text.dropWhile Char.isDigit)
  Nat.ofDigitChars 10 (text.takeWhile Char.isDigit ++ fraction.1) 0 *
    10 ^ (exponentOf fraction.2 - fraction.1.length)

/-- Nothing, or an exponent. -/
def IsExponent : List Char → Prop
  | [] => True
  | c :: _ => c = 'e'

section Parts

variable {whole fraction rest : List Char}

theorem IsExponent.head_isDigit (isExponent : IsExponent rest) :
    ∀ c ∈ rest.head?, c.isDigit = false := by
  cases rest with
  | nil => nofun
  | cons c cs =>
      obtain rfl : c = 'e' := isExponent
      rintro _ ⟨⟩
      rfl

/-- What digits with a decimal point and an exponent denote. -/
theorem denote_point (wholeDigits : ∀ d ∈ whole, d.isDigit = true)
    (fractionDigits : ∀ d ∈ fraction, d.isDigit = true) (isExponent : IsExponent rest) :
    denote (whole ++ '.' :: (fraction ++ rest)) =
      Nat.ofDigitChars 10 (whole ++ fraction) 0 * 10 ^ (exponentOf rest - fraction.length) := by
  have atPoint : ∀ c ∈ ('.' :: (fraction ++ rest)).head?, c.isDigit = false := by
    rintro _ ⟨⟩
    rfl
  obtain ⟨before, after⟩ := takeWhile_append_eq wholeDigits atPoint
  obtain ⟨digits, left⟩ := takeWhile_append_eq fractionDigits isExponent.head_isDigit
  rw [denote, before, after, fractionOf, digits, left]

/-- What digits with an exponent denote. -/
theorem denote_whole (wholeDigits : ∀ d ∈ whole, d.isDigit = true)
    (isExponent : IsExponent rest) :
    denote (whole ++ rest) = Nat.ofDigitChars 10 whole 0 * 10 ^ exponentOf rest := by
  obtain ⟨before, after⟩ := takeWhile_append_eq wholeDigits isExponent.head_isDigit
  have noPoint : fractionOf rest = ([], rest) := by
    cases rest with
    | nil => rfl
    | cons c cs =>
        obtain rfl : c = 'e' := isExponent
        rfl
  rw [denote, before, after, noPoint, List.append_nil, List.length_nil, Int.natCast_zero,
    Int.sub_zero]

end Parts

/-! ## Texts of fractions -/

/-- Whether a character may occur in a number. -/
def isNumeric (c : Char) : Bool :=
  c.isDigit || c == '.' || c == 'e' || c == '+' || c == '-'

theorem isNumeric_of_isDigit {text : List Char} (digits : ∀ d ∈ text, d.isDigit = true) :
    ∀ c ∈ text, isNumeric c = true := by
  intro c mem
  rw [isNumeric, digits c mem]
  rfl

/-- A text stands for a fraction.  It starts with a digit, and no integer looks like it. -/
structure Writes (text : List Char) (value : ℚ) : Prop where
  denotes : denote text = value
  starts : ∃ c ∈ text.head?, c.isDigit = true
  numeric : ∀ c ∈ text, isNumeric c = true
  marked : ∃ c ∈ text, c.isDigit = false

theorem head_isDigit_append {whole : List Char} (notEmpty : whole ≠ [])
    (digits : ∀ d ∈ whole, d.isDigit = true) (rest : List Char) :
    ∃ c ∈ (whole ++ rest).head?, c.isDigit = true := by
  obtain ⟨first, others, rfl⟩ := List.exists_cons_of_ne_nil notEmpty
  exact ⟨first, rfl, digits first List.mem_cons_self⟩

/-- An exponent after its mark. -/
def exponentChars (exponent : Int) : List Char :=
  'e' :: (if exponent < 0 then '-' else '+') :: digitsOf exponent.natAbs

theorem isDigit_digitsOf {n : Nat} : ∀ d ∈ digitsOf n, d.isDigit = true := fun _ mem =>
  Nat.isDigit_of_mem_toDigits (by decide) (by decide) mem

theorem ofDigitChars_digitsOf (n : Nat) : Nat.ofDigitChars 10 (digitsOf n) 0 = n :=
  Nat.ofDigitChars_ten_toDigits

theorem isExponent_exponentChars (exponent : Int) : IsExponent (exponentChars exponent) :=
  rfl

theorem exponentOf_exponentChars (exponent : Int) :
    exponentOf (exponentChars exponent) = exponent := by
  have number := ofDigitChars_digitsOf exponent.natAbs
  unfold exponentChars
  split_ifs with negative
  · rw [exponentOf, number]
    omega
  · rw [exponentOf, number]
    omega

theorem isNumeric_exponentChars (exponent : Int) :
    ∀ c ∈ exponentChars exponent, isNumeric c = true := by
  have digits : ∀ c ∈ digitsOf exponent.natAbs, isNumeric c = true :=
    isNumeric_of_isDigit isDigit_digitsOf
  refine List.forall_mem_cons.mpr ⟨rfl, List.forall_mem_cons.mpr ⟨?_, digits⟩⟩
  split_ifs
  · rfl
  · rfl

section Forms

variable {whole fraction : List Char} (notEmpty : whole ≠ [])
  (wholeDigits : ∀ d ∈ whole, d.isDigit = true) (fractionDigits : ∀ d ∈ fraction, d.isDigit = true)

include notEmpty wholeDigits fractionDigits in
/-- Digits with a decimal point. -/
theorem writes_point : Writes (whole ++ '.' :: fraction)
    (Nat.ofDigitChars 10 (whole ++ fraction) 0 * 10 ^ (-fraction.length : Int)) where
  denotes := by
    have nothing : IsExponent [] := trivial
    have denoted := denote_point wholeDigits fractionDigits nothing
    have noExponent : exponentOf [] = 0 := rfl
    rwa [List.append_nil, noExponent, Int.zero_sub] at denoted
  starts := head_isDigit_append notEmpty wholeDigits _
  numeric := List.forall_mem_append.mpr ⟨isNumeric_of_isDigit wholeDigits,
    List.forall_mem_cons.mpr ⟨rfl, isNumeric_of_isDigit fractionDigits⟩⟩
  marked := ⟨'.', List.mem_append_right _ List.mem_cons_self, rfl⟩

include notEmpty wholeDigits in
/-- Digits with an exponent. -/
theorem writes_exponent (exponent : Int) : Writes (whole ++ exponentChars exponent)
    (Nat.ofDigitChars 10 whole 0 * 10 ^ exponent) where
  denotes := by
    rw [denote_whole wholeDigits (isExponent_exponentChars exponent), exponentOf_exponentChars]
  starts := head_isDigit_append notEmpty wholeDigits _
  numeric := List.forall_mem_append.mpr
    ⟨isNumeric_of_isDigit wholeDigits, isNumeric_exponentChars exponent⟩
  marked := ⟨'e', List.mem_append_right _ List.mem_cons_self, rfl⟩

include notEmpty wholeDigits fractionDigits in
/-- Digits with a decimal point and an exponent. -/
theorem writes_point_exponent (exponent : Int) :
    Writes (whole ++ '.' :: (fraction ++ exponentChars exponent))
      (Nat.ofDigitChars 10 (whole ++ fraction) 0 * 10 ^ (exponent - fraction.length)) where
  denotes := by
    rw [denote_point wholeDigits fractionDigits (isExponent_exponentChars exponent),
      exponentOf_exponentChars]
  starts := head_isDigit_append notEmpty wholeDigits _
  numeric := List.forall_mem_append.mpr ⟨isNumeric_of_isDigit wholeDigits,
    List.forall_mem_cons.mpr ⟨rfl, List.forall_mem_append.mpr
      ⟨isNumeric_of_isDigit fractionDigits, isNumeric_exponentChars exponent⟩⟩⟩
  marked := ⟨'.', List.mem_append_right _ List.mem_cons_self, rfl⟩

end Forms

/-! ## The text of a decimal -/

section Magnitude

variable (s : Scientific)

/-- Zeros after the digits make up for a smaller exponent. -/
theorem shifted_eq_value {digits : List Char} {exponent : Int} (zeros : Nat)
    (number : Nat.ofDigitChars 10 digits 0 = 10 ^ zeros * s.digits)
    (shifted : exponent + zeros = s.exponent) :
    (Nat.ofDigitChars 10 digits 0 : ℚ) * 10 ^ exponent = s.value := by
  rw [number, Scientific.value, ← shifted, zpow_add₀ (by norm_num), zpow_natCast]
  push_cast
  ring

theorem isDigit_zero : ∀ d ∈ ['0'], d.isDigit = true :=
  List.forall_mem_singleton.mpr rfl

theorem isDigit_zeros {count : Nat} : ∀ d ∈ Layout.zeros count, d.isDigit = true := by
  intro d mem
  rw [Layout.zeros, List.mem_replicate] at mem
  rw [mem.2]
  rfl

/-- Digits with a decimal point after `point` of them. -/
theorem writes_positional {point : Int}
    (atPoint : point = (digitsOf s.digits).length + s.exponent) :
    Writes (layout.positional (digitsOf s.digits) point) s.value := by
  have number := ofDigitChars_digitsOf s.digits
  have digits : ∀ d ∈ digitsOf s.digits, d.isDigit = true := isDigit_digitsOf
  have notEmpty : digitsOf s.digits ≠ [] := Nat.toDigits_ne_nil
  have pointAfterWhole : layout.pointAfterWhole = true := rfl
  simp only [Layout.positional, pointAfterWhole, if_true]
  split_ifs with small short
  · have fraction : ∀ d ∈ Layout.zeros (-point).toNat ++ digitsOf s.digits, d.isDigit = true :=
      List.forall_mem_append.mpr ⟨isDigit_zeros, digits⟩
    have written := writes_point (List.cons_ne_nil '0' []) isDigit_zero fraction
    rwa [shifted_eq_value s 0] at written
    · rw [Layout.zeros, Nat.ofDigitChars_append, Nat.ofDigitChars_append,
        Nat.ofDigitChars_replicate_zero]
      simpa [Nat.ofDigitChars_cons] using number
    · rw [List.length_append, Layout.zeros, List.length_replicate]
      omega
  · obtain ⟨count, isCount⟩ : ∃ count, count = point.toNat - (digitsOf s.digits).length :=
      ⟨_, rfl⟩
    have whole : ∀ d ∈ digitsOf s.digits ++ Layout.zeros count, d.isDigit = true :=
      List.forall_mem_append.mpr ⟨digits, isDigit_zeros⟩
    have written := writes_point (List.append_ne_nil_of_left_ne_nil notEmpty _) whole isDigit_zero
    rw [← isCount]
    rwa [shifted_eq_value s (count + 1)] at written
    · rw [Nat.ofDigitChars_append, Nat.ofDigitChars_append, number, Layout.zeros,
        Nat.ofDigitChars_replicate_zero, Nat.pow_succ]
      simp [Nat.ofDigitChars_cons]
      ring
    · rw [List.length_singleton]
      omega
  · obtain ⟨inWhole, inFraction⟩ := List.forall_mem_append.mp
      ((List.take_append_drop point.toNat (digitsOf s.digits)).symm ▸ digits)
    have inside : (digitsOf s.digits).take point.toNat ≠ [] := by
      rw [Ne, List.take_eq_nil_iff, not_or]
      exact ⟨by omega, notEmpty⟩
    have written := writes_point inside inWhole inFraction
    rwa [shifted_eq_value s 0] at written
    · rw [List.take_append_drop, number, Nat.pow_zero, Nat.one_mul]
    · rw [List.length_drop]
      omega

theorem mark_append (exponent : Int) :
    (if exponent < 0 then layout.negativeExponentMark else layout.exponentMark).toList ++
      digitsOf exponent.natAbs = exponentChars exponent := by
  unfold exponentChars
  split_ifs
  · rfl
  · rfl

theorem withExponent_singleton (first : Char) (exponent : Int) :
    layout.withExponent [first] exponent = [first] ++ exponentChars exponent := by
  rw [← mark_append]
  rfl

theorem withExponent_cons_cons (first second : Char) (more : List Char) (exponent : Int) :
    layout.withExponent (first :: second :: more) exponent =
      [first] ++ '.' :: (second :: more ++ exponentChars exponent) := by
  rw [← mark_append, Layout.withExponent, List.append_assoc]
  rfl

/-- The first digit, the others after a decimal point, and an exponent. -/
theorem writes_withExponent {exponent : Int}
    (afterFirst : exponent = (digitsOf s.digits).length + s.exponent - 1) :
    Writes (layout.withExponent (digitsOf s.digits) exponent) s.value := by
  have number : Nat.ofDigitChars 10 (digitsOf s.digits) 0 = 10 ^ 0 * s.digits := by
    rw [ofDigitChars_digitsOf, Nat.pow_zero, Nat.one_mul]
  have digits : ∀ d ∈ digitsOf s.digits, d.isDigit = true := isDigit_digitsOf
  cases written : digitsOf s.digits with
  | nil => exact absurd written Nat.toDigits_ne_nil
  | cons first others =>
      rw [written] at number digits afterFirst
      obtain ⟨firstDigit, otherDigits⟩ := List.forall_mem_cons.mp digits
      have start : ∀ d ∈ [first], d.isDigit = true := List.forall_mem_singleton.mpr firstDigit
      cases others with
      | nil =>
          have text := writes_exponent (List.cons_ne_nil first []) start exponent
          rw [List.length_singleton] at afterFirst
          rwa [shifted_eq_value s 0 number (by omega), ← withExponent_singleton] at text
      | cons second more =>
          have text := writes_point_exponent (List.cons_ne_nil first []) start otherDigits exponent
          rw [List.length_cons] at afterFirst
          have value : (Nat.ofDigitChars 10 ([first] ++ second :: more) 0 : ℚ) *
              10 ^ (exponent - (second :: more).length) = s.value :=
            shifted_eq_value s 0 number (by omega)
          rwa [value, ← withExponent_cons_cons] at text

/-- The text of a decimal stands for the decimal. -/
theorem writes_magnitude : Writes (layout.magnitude s) s.value := by
  rw [Layout.magnitude]
  split
  · exact writes_positional s rfl
  · exact writes_withExponent s rfl

end Magnitude

/-! ## Texts of numbers -/

/-- The text of a number without its sign. -/
def unsigned (mantissa : Nat) (exponent : Int) : List Char :=
  if mantissa = 0 then ['0', '.', '0'] else layout.magnitude (shortest .even mantissa exponent)

theorem writes_unsigned_zero (exponent : Int) : Writes (unsigned 0 exponent) 0 := by
  have zero : Writes (['0'] ++ '.' :: ['0']) _ :=
    writes_point (List.cons_ne_nil '0' []) isDigit_zero isDigit_zero
  have number : Nat.ofDigitChars 10 (['0'] ++ ['0']) 0 = 0 := rfl
  rwa [number, Nat.cast_zero, zero_mul] at zero

theorem writes_unsigned_of_pos {mantissa : Nat} (positive : 0 < mantissa) (exponent : Int) :
    Writes (unsigned mantissa exponent) (shortest .even mantissa exponent).value := by
  rw [unsigned, if_neg (Nat.ne_of_gt positive)]
  exact writes_magnitude _

theorem exists_writes_unsigned (mantissa : Nat) (exponent : Int) :
    ∃ value, Writes (unsigned mantissa exponent) value := by
  rcases Nat.eq_zero_or_pos mantissa with rfl | positive
  · exact ⟨0, writes_unsigned_zero exponent⟩
  · exact ⟨_, writes_unsigned_of_pos positive exponent⟩

/-- A text without a sign tells the mantissa and the exponent. -/
theorem unsigned_inj {m n : Nat} {d e : Int} (left : Canonical m d) (right : Canonical n e)
    (same : unsigned m d = unsigned n e) : m = n ∧ d = e := by
  rcases Nat.eq_zero_or_pos m with rfl | positive
  · have zero := writes_unsigned_zero d
    rcases Nat.eq_zero_or_pos n with rfl | otherPositive
    · have least := left.least_le
      have otherLeast := right.least_le
      have normal := left.normal
      have otherNormal := right.normal
      exact ⟨rfl, by omega⟩
    · have other := writes_unsigned_of_pos otherPositive e
      rw [← same] at other
      exact absurd (zero.denotes.symm.trans other.denotes)
        (shortest_value_pos .even right otherPositive).ne
  · have written := writes_unsigned_of_pos positive d
    rcases Nat.eq_zero_or_pos n with rfl | otherPositive
    · have zero := writes_unsigned_zero e
      rw [← same] at zero
      exact absurd (zero.denotes.symm.trans written.denotes)
        (shortest_value_pos .even left positive).ne
    · have other := writes_unsigned_of_pos otherPositive e
      rw [← same] at other
      exact shortest_value_inj left right positive otherPositive
        (written.denotes.symm.trans other.denotes)

/-- A sign before a text. -/
def signed (negative : Bool) (text : List Char) : List Char :=
  if negative then '-' :: text else text

theorem signed_inj {p q : Bool} {text other : List Char}
    (starts : ∃ c ∈ text.head?, c.isDigit = true)
    (otherStarts : ∃ c ∈ other.head?, c.isDigit = true)
    (same : signed p text = signed q other) : p = q ∧ text = other := by
  have unlike {digits rest : List Char} (starts : ∃ c ∈ digits.head?, c.isDigit = true) :
      '-' :: rest ≠ digits := by
    rintro rfl
    obtain ⟨_, ⟨⟩, isDigit⟩ := starts
    cases isDigit
  cases p with
  | false =>
      cases q with
      | false => exact ⟨rfl, same⟩
      | true => exact absurd same.symm (unlike starts)
  | true =>
      cases q with
      | false => exact absurd same (unlike otherStarts)
      | true => exact ⟨rfl, (List.cons.inj same).2⟩

variable {x y : Float}

theorem toList_floatText {negative : Bool} {mantissa : Nat} {exponent : Int}
    (isFinite : x.isFinite = true)
    (decoded : Binary64.ofFloat x = .finite negative mantissa exponent) :
    (floatText x).toList = signed negative (unsigned mantissa exponent) := by
  have write : floatText x = layout.write x := by
    rw [floatText, Binary64.isInf_of_isFinite isFinite, if_neg Bool.false_ne_true]
  rw [write, Layout.write, decoded, unsigned, signed]
  dsimp only
  split
  · cases negative
    · rfl
    · rfl
  · rw [String.toList_ofList]
    rfl

/-- The text of a finite number is that of a fraction with a sign. -/
theorem exists_signed_floatText (isFinite : x.isFinite = true) :
    ∃ negative text value, Writes text value ∧ (floatText x).toList = signed negative text := by
  obtain ⟨negative, mantissa, exponent, decoded⟩ := Binary64.exists_of_isFinite isFinite
  obtain ⟨value, written⟩ := exists_writes_unsigned mantissa exponent
  exact ⟨negative, _, value, written, toList_floatText isFinite decoded⟩

/-- A finite number is told by its text. -/
theorem floatText_inj (left : x.isFinite = true) (right : y.isFinite = true)
    (same : floatText x = floatText y) : x = y := by
  obtain ⟨p, m, d, decoded⟩ := Binary64.exists_of_isFinite left
  obtain ⟨q, n, e, otherDecoded⟩ := Binary64.exists_of_isFinite right
  have texts : (floatText x).toList = (floatText y).toList := congrArg String.toList same
  rw [toList_floatText left decoded, toList_floatText right otherDecoded] at texts
  obtain ⟨_, written⟩ := exists_writes_unsigned m d
  obtain ⟨_, otherWritten⟩ := exists_writes_unsigned n e
  obtain ⟨rfl, unsignedSame⟩ := signed_inj written.starts otherWritten.starts texts
  obtain ⟨rfl, rfl⟩ := unsigned_inj (Binary64.ofFloat_eq_finite decoded).1
    (Binary64.ofFloat_eq_finite otherDecoded).1 unsignedSame
  exact Binary64.eq_of_ofFloat_eq decoded otherDecoded

end EditGuard.Json
