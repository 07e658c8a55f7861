import EditGuard.Proofs.Digest
import EditGuard.Proofs.Json.RoundTrip
import EditGuard.Proofs.Number.Arithmetic
import EditGuard.Proofs.Number.Grammar
import Mathlib.Algebra.Field.Rat
import Mathlib.Tactic.Ring

/-!
# Reading numbers

What a numeral denotes is a decimal fraction: an integer where it is written as one and in range,
and otherwise the floating point number for its digits and its scale.  A text is numeric if what
follows its leading blanks is a numeral, and the number of any text is that of the longest
numeral there.
-/

namespace EditGuard

namespace Numeral

/-! ## What a numeral denotes -/

/-- The digits of a numeral, with those of the fraction, as a number. -/
def significand (n : Numeral) : Nat :=
  Nat.ofDigitChars 10 (n.whole ++ n.fraction.getD []) 0

/-- The power of ten by which the significand is scaled. -/
def scale (n : Numeral) : Int :=
  let power : Int :=
    match n.exponent with
    | some (true, ds) => -Nat.ofDigitChars 10 ds 0
    | some (false, ds) => Nat.ofDigitChars 10 ds 0
    | none => 0
  power - (n.fraction.getD []).length

/-- The fraction that a numeral denotes. -/
def rational (n : Numeral) : ℚ :=
  (if n.negative then -1 else 1) * n.significand * 10 ^ n.scale

/-- Whether a numeral has neither point nor exponent. -/
def IsWhole (n : Numeral) : Prop :=
  n.fraction = none ∧ n.exponent = none

/-- Whether a numeral has neither point nor exponent and its integer is in range. -/
def IsInteger (n : Numeral) : Prop :=
  n.IsWhole ∧ ∃ k : Int64, (k.toInt : ℚ) = n.rational

/-- The number that a numeral denotes. -/
def Denotes (n : Numeral) : Number → Prop
  | .int k => n.IsWhole ∧ (k.toInt : ℚ) = n.rational
  | .float x => ¬ n.IsInteger ∧
      x = if n.negative then -Decimal.ofDecimal n.significand n.scale
        else Decimal.ofDecimal n.significand n.scale

/-- The integer of a numeral that has neither point nor exponent. -/
def signedWhole (n : Numeral) : Int :=
  if n.negative then -(Nat.ofDigitChars 10 n.whole 0 : Int) else Nat.ofDigitChars 10 n.whole 0

section Denotation

variable {n : Numeral}

theorem magnitude_eq (n : Numeral) :
    n.magnitude = Decimal.ofDecimal n.significand n.scale := by
  rcases n with ⟨negative, whole, fraction, _ | ⟨_ | _, ds⟩⟩ <;> rfl

theorem rational_of_isWhole (isWhole : n.IsWhole) : n.rational = (n.signedWhole : ℚ) := by
  obtain ⟨noFraction, noExponent⟩ := isWhole
  have noScale : n.scale = 0 := by
    rw [scale, noFraction, noExponent]
    rfl
  rw [rational, signedWhole, significand, noScale, noFraction, Option.getD_none, List.append_nil,
    zpow_zero, mul_one]
  split_ifs with negative
  · push_cast
    ring
  · push_cast
    ring

theorem value_of_isWhole (isWhole : n.IsWhole) :
    n.value = Number.exactOr n.signedWhole (if n.negative then -n.magnitude else n.magnitude) := by
  have both : (n.fraction.isNone && n.exponent.isNone) = true := by
    rwa [Bool.and_eq_true, Option.isNone_iff_eq_none, Option.isNone_iff_eq_none]
  exact if_pos both

theorem value_of_not_isWhole (notWhole : ¬ n.IsWhole) :
    n.value = .float (if n.negative then -n.magnitude else n.magnitude) := by
  have notBoth : ¬ (n.fraction.isNone && n.exponent.isNone) = true := by
    rwa [Bool.and_eq_true, Option.isNone_iff_eq_none, Option.isNone_iff_eq_none]
  exact if_neg notBoth

/-- A numeral without point and exponent is an integer if it is in range. -/
theorem isInteger_iff_fits (isWhole : n.IsWhole) :
    n.IsInteger ↔ Number.Fits n.signedWhole := by
  constructor
  · rintro ⟨-, k, denoted⟩
    rw [rational_of_isWhole isWhole, Int.cast_inj] at denoted
    exact denoted ▸ Number.fits_toInt k
  · intro fits
    refine ⟨isWhole, Int64.ofInt n.signedWhole, ?_⟩
    rw [Number.toInt_ofInt fits, rational_of_isWhole isWhole]

theorem denotes_value (n : Numeral) : n.Denotes n.value := by
  by_cases isWhole : n.IsWhole
  · rw [value_of_isWhole isWhole, Number.exactOr]
    by_cases fits : Number.Fits n.signedWhole
    · rw [if_pos fits]
      refine ⟨isWhole, ?_⟩
      rw [Number.toInt_ofInt fits, rational_of_isWhole isWhole]
    · rw [if_neg fits, magnitude_eq]
      exact ⟨mt (isInteger_iff_fits isWhole).mp fits, rfl⟩
  · rw [value_of_not_isWhole isWhole, magnitude_eq]
    exact ⟨fun isInteger => isWhole isInteger.1, rfl⟩

theorem Denotes.unique {a b : Number} (denotes : n.Denotes a) (other : n.Denotes b) :
    a = b := by
  rcases a with k | x
  · rcases b with l | y
    · have same := Int.cast_inj.mp (denotes.2.trans other.2.symm)
      rw [Int64.toInt_inj.mp same]
    · exact absurd ⟨denotes.1, k, denotes.2⟩ other.1
  · rcases b with l | y
    · exact absurd ⟨other.1, l, other.2⟩ denotes.1
    · rw [denotes.2, other.2]

/-- An integer is denoted if and only if the numeral is one in range. -/
theorem Denotes.isInteger_iff {number : Number} (denotes : n.Denotes number) :
    (∃ k, number = .int k) ↔ n.IsInteger := by
  rcases number with k | x
  · exact ⟨fun _ => ⟨denotes.1, k, denotes.2⟩, fun _ => ⟨k, rfl⟩⟩
  · exact ⟨nofun, fun isInteger => absurd isInteger denotes.1⟩

theorem denotes_iff {number : Number} : n.Denotes number ↔ n.value = number := by
  constructor
  · exact n.denotes_value.unique
  · rintro rfl
    exact n.denotes_value

end Denotation

/-! ## Characters and bytes of numerals -/

section Bytes

variable {ds s m p lexeme cs : List Char}

theorem AllDigits.visible (all : AllDigits ds) : ∀ c ∈ ds, 0x20 < c.toNat ∧ c.toNat < 0x80 := by
  intro c mem
  have isDigit := Char.isDigit_iff_toNat.mp (all c mem)
  exact ⟨Nat.lt_of_lt_of_le (by decide) isDigit.1, Nat.lt_of_le_of_lt isDigit.2 (by decide)⟩

theorem SpellsSign.visible {negative : Bool} (signed : SpellsSign negative s) :
    ∀ c ∈ s, 0x20 < c.toNat ∧ c.toNat < 0x80 := by
  cases signed with
  | nothing => nofun
  | plus => exact List.forall_mem_singleton.mpr (by decide)
  | minus => exact List.forall_mem_singleton.mpr (by decide)

theorem SpellsMagnitude.visible {whole : List Char} {fraction : Option (List Char)}
    (measured : SpellsMagnitude whole fraction m) :
    ∀ c ∈ m, 0x20 < c.toNat ∧ c.toNat < 0x80 := by
  cases measured with
  | whole _ all => exact all.visible
  | fraction _ all more =>
      refine List.forall_mem_append.mpr ⟨all.visible, List.forall_mem_cons.mpr ⟨?_, more.visible⟩⟩
      decide
  | point _ all => exact List.forall_mem_cons.mpr ⟨by decide, all.visible⟩

theorem SpellsExponent.visible {exponent : Option (Bool × List Char)}
    (scaled : SpellsExponent exponent p) : ∀ c ∈ p, 0x20 < c.toNat ∧ c.toNat < 0x80 := by
  cases scaled with
  | nothing => nofun
  | exponent isMark signed _ all =>
      have afterMark := List.forall_mem_append.mpr ⟨signed.visible, all.visible⟩
      refine List.forall_mem_cons.mpr ⟨?_, afterMark⟩
      rcases isMark with rfl | rfl <;> decide

/-- All characters of a numeral are visible, and of one byte. -/
theorem Spells.visible {n : Numeral} (spells : n.Spells lexeme) :
    ∀ c ∈ lexeme, 0x20 < c.toNat ∧ c.toNat < 0x80 := by
  obtain ⟨signed, measured, scaled⟩ := spells
  have afterSign := List.forall_mem_append.mpr ⟨measured.visible, scaled.visible⟩
  exact List.forall_mem_append.mpr ⟨signed.visible, afterSign⟩

/-- No numeral begins with a blank. -/
theorem Spells.dropWhile_isBlank {n : Numeral} (spells : n.Spells lexeme) :
    lexeme.dropWhile Text.isBlank = lexeme := by
  cases lexeme with
  | nil => rfl
  | cons c cs =>
      obtain ⟨above, below⟩ := spells.visible c List.mem_cons_self
      have noBlank := Text.isBlank_eq_false above below
      exact List.dropWhile_cons_of_neg (by simp [noBlank])

/-- Only a character of one byte has a first byte below 0x80. -/
theorem utf8EncodeChar_of_head_lt {c : Char} {b : UInt8} {bs : List UInt8}
    (encoded : String.utf8EncodeChar c = b :: bs) (low : b.toNat < 0x80) :
    c.toNat = b.toNat ∧ bs = [] := by
  simp only [String.utf8EncodeChar] at encoded
  split_ifs at encoded with one
  · cases encoded
    rw [UInt8.toNat_ofNat_of_lt' (Nat.lt_of_le_of_lt one (by decide))]
    exact ⟨rfl, rfl⟩
  all_goals
    cases encoded
    rw [UInt8.toNat_ofNat'] at low
    omega

/-- Bytes that are characters of their own, and are at the head of a text, are at its head as
characters. -/
theorem prefix_of_bytes (ascii : ∀ c ∈ lexeme, c.toNat < 0x80)
    (bytes : lexeme.flatMap String.utf8EncodeChar <+: cs.flatMap String.utf8EncodeChar) :
    lexeme <+: cs := by
  induction lexeme generalizing cs with
  | nil => exact List.nil_prefix
  | cons c lexeme ih =>
      have low : c.val.toNat ≤ 127 := Nat.le_of_lt_succ (ascii c List.mem_cons_self)
      have encoded : String.utf8EncodeChar c = [UInt8.ofNat c.val.toNat] := if_pos low
      rw [List.flatMap_cons, encoded, List.singleton_append] at bytes
      cases cs with
      | nil => exact absurd (List.prefix_nil.mp bytes) (List.cons_ne_nil _ _)
      | cons d ds =>
          rw [List.flatMap_cons] at bytes
          have someByte : String.utf8EncodeChar d ≠ [] := String.utf8EncodeChar_ne_nil
          obtain ⟨b, bs, first⟩ := List.exists_cons_of_ne_nil someByte
          rw [first, List.cons_append, List.cons_prefix_cons] at bytes
          obtain ⟨rfl, rest⟩ := bytes
          -- A character that begins with the byte of `c` is `c`: longer ones begin with high bytes.
          have byte : (UInt8.ofNat c.val.toNat).toNat = c.val.toNat :=
            UInt8.toNat_ofNat_of_lt' (Nat.lt_of_le_of_lt low (by decide))
          obtain ⟨same, rfl⟩ := utf8EncodeChar_of_head_lt first (by omega)
          have equal : d = c := Char.ext (UInt32.toNat_inj.mp (same.trans byte))
          rw [equal, List.cons_prefix_cons]
          exact ⟨rfl, ih (fun c mem => ascii c (List.mem_cons_of_mem _ mem)) rest⟩

end Bytes

/-! ## Decimal numbers -/

/-- The digits of a decimal number, with a point among them or at either end:
`D+ | D+ '.' D* | D* '.' D+`. -/
inductive IsDecimalBody : List Char → Prop
  | whole {ds : List Char} (notEmpty : ds ≠ []) (digits : AllDigits ds) : IsDecimalBody ds
  | pointAfter {ds fs : List Char} (notEmpty : ds ≠ []) (digits : AllDigits ds)
      (more : AllDigits fs) : IsDecimalBody (ds ++ '.' :: fs)
  | pointBefore {ds fs : List Char} (digits : AllDigits ds) (notEmpty : fs ≠ [])
      (more : AllDigits fs) : IsDecimalBody (ds ++ '.' :: fs)

/-- A text that the conversion of decimal numbers to floating point accepts. -/
inductive IsDecimal : List Char → Prop
  | number {negative : Bool} {exponent : Option (Bool × List Char)} {sign body power : List Char}
      (signed : SpellsSign negative sign) (isBody : IsDecimalBody body)
      (scaled : SpellsExponent exponent power) : IsDecimal (sign ++ (body ++ power))

theorem Spells.isDecimal {n : Numeral} {lexeme : List Char} (spells : n.Spells lexeme) :
    IsDecimal lexeme := by
  obtain ⟨signed, measured, scaled⟩ := spells
  refine .number signed ?_ scaled
  cases measured with
  | whole notEmpty digits => exact .whole notEmpty digits
  | fraction notEmpty digits more => exact .pointAfter notEmpty digits more
  | point notEmpty digits => exact @IsDecimalBody.pointBefore [] _ nofun notEmpty digits

/-! ## Integers -/

/-- The numeral that is written for an integer. -/
def ofInt (k : Int) : Numeral :=
  ⟨k < 0, Nat.toDigits 10 k.natAbs, none, none⟩

theorem spells_ofInt (k : Int) : (ofInt k).Spells (toString k).toList := by
  have measured : SpellsMagnitude (Nat.toDigits 10 k.natAbs) none (Nat.toDigits 10 k.natAbs) :=
    .whole Nat.toDigits_ne_nil fun _ mem => Nat.isDigit_of_mem_toDigits (by decide) (by decide) mem
  have text := Json.compactChars_integer k
  rw [Json.compactChars] at text
  rw [text, ofInt]
  split_ifs with positive
  · have word := Spells.word .nothing measured .nothing
    rw [List.append_nil, List.nil_append] at word
    rwa [decide_eq_false (by omega), show k.toNat = k.natAbs by omega]
  · have word := Spells.word .minus measured .nothing
    rw [List.append_nil, List.singleton_append] at word
    rwa [decide_eq_true (by omega), show (-k).toNat = k.natAbs by omega]

theorem denotes_ofInt (k : Int64) : (ofInt k.toInt).Denotes (.int k) := by
  have number : (ofInt k.toInt).signedWhole = k.toInt := by
    simp only [signedWhole, ofInt, Nat.ofDigitChars_ten_toDigits, decide_eq_true_eq]
    split_ifs with negative <;> omega
  exact ⟨⟨rfl, rfl⟩, by rw [rational_of_isWhole ⟨rfl, rfl⟩, number]⟩

end Numeral

namespace Number

/-! ## Texts -/

/-- What comes after the blanks at the head of a text. -/
def afterBlanks (text : String) : List Char :=
  text.toList.dropWhile Text.isBlank

/-- Whether no beginning of a text is a numeral. -/
def NoNumeral (cs : List Char) : Prop :=
  ∀ (n : Numeral) (word : List Char), n.Spells word → ¬ word <+: cs

section Texts

variable {text : String} {number : Number}

theorem ofText?_eq_some_iff : ofText? text = some number ↔
    ∃ n : Numeral, n.Spells (afterBlanks text) ∧ n.Denotes number := by
  simp only [← Numeral.scan_eq_some_nil_iff, Numeral.denotes_iff, ofText?, afterBlanks]
  rcases Numeral.scan (text.toList.dropWhile Text.isBlank) with _ | ⟨n, _ | ⟨c, rest⟩⟩ <;> simp

theorem ofTextPrefix_eq_iff : ofTextPrefix text = number ↔
    (∃ (n : Numeral) (lexeme : List Char), n.IsLongest lexeme (afterBlanks text) ∧
      n.Denotes number) ∨ (NoNumeral (afterBlanks text) ∧ number = .int 0) := by
  simp only [exists_and_right, Numeral.exists_isLongest_iff, NoNumeral,
    ← Numeral.scan_eq_none_iff, Numeral.denotes_iff, ofTextPrefix, afterBlanks]
  rcases Numeral.scan (text.toList.dropWhile Text.isBlank) with _ | ⟨n, rest⟩
  · simp [eq_comm]
  · simp

/-- A numeric text has the same number when only the numeral at its head is read. -/
theorem ofTextPrefix_of_ofText? (whole : ofText? text = some number) :
    ofTextPrefix text = number := by
  obtain ⟨n, spells, denotes⟩ := ofText?_eq_some_iff.mp whole
  exact ofTextPrefix_eq_iff.mpr (.inl ⟨n, _, spells.isLongest, denotes⟩)

end Texts

/-- The text of an integer is read as that integer. -/
theorem ofText?_toString (k : Int64) : ofText? (toString k.toInt) = some (.int k) := by
  have spells := Numeral.spells_ofInt k.toInt
  refine ofText?_eq_some_iff.mpr ⟨_, ?_, Numeral.denotes_ofInt k⟩
  rwa [afterBlanks, spells.dropWhile_isBlank]

/-- A numeral that is at the head of a text by its bytes ends between two of its characters. -/
theorem isValid_of_bytes {n : Numeral} {lexeme cs : List Char} (spells : n.Spells lexeme)
    (bytes : (String.ofList lexeme).toUTF8.toList <+: (String.ofList cs).toUTF8.toList) :
    lexeme <+: cs ∧ (String.ofList lexeme).rawEndPos.IsValid (String.ofList cs) := by
  rw [Digest.toList_toUTF8, Digest.toList_toUTF8, String.toList_ofList, String.toList_ofList]
    at bytes
  have atHead := Numeral.prefix_of_bytes (fun c mem => (spells.visible c mem).2) bytes
  obtain ⟨rest, rfl⟩ := atHead
  refine ⟨List.prefix_append _ _, String.Pos.Raw.isValid_iff_exists_append.mpr ?_⟩
  exact ⟨String.ofList lexeme, String.ofList rest, String.ofList_append, rfl⟩

/-- How the numbers of a text are read. -/
structure ReadsNumbers (text : String) : Prop where
  /-- A text is numeric if all after its leading blanks is a numeral. -/
  whole : ∀ number, ofText? text = some number ↔
    ∃ n : Numeral, n.Spells (afterBlanks text) ∧ n.Denotes number
  /-- The number of any text is that of the longest numeral there, and zero if there is none. -/
  head : ∀ number, ofTextPrefix text = number ↔
    (∃ (n : Numeral) (lexeme : List Char), n.IsLongest lexeme (afterBlanks text) ∧
      n.Denotes number) ∨ (NoNumeral (afterBlanks text) ∧ number = .int 0)
  /-- A numeric text has the number of the numeral at its head. -/
  agree : ∀ number, ofText? text = some number → ofTextPrefix text = number
  /-- The bytes of a numeral at the head end between two characters. -/
  boundary : ∀ (n : Numeral) (lexeme : List Char), n.Spells lexeme →
    (String.ofList lexeme).toUTF8.toList <+: (String.ofList (afterBlanks text)).toUTF8.toList →
    lexeme <+: afterBlanks text ∧
      (String.ofList lexeme).rawEndPos.IsValid (String.ofList (afterBlanks text))

/-- The numeric texts are exactly the words of the grammar of numerals.  Each of these can be
converted to floating point and denotes one number, which is an integer if the word has neither
point nor exponent and is in range; and the text of an integer denotes that integer. -/
theorem reads_numbers :
    (∀ text, ReadsNumbers text) ∧
    (∀ (n : Numeral) (lexeme : List Char), n.Spells lexeme → Numeral.IsDecimal lexeme ∧
      ∃ number, (∀ other, n.Denotes other ↔ other = number) ∧
        ((∃ k, number = .int k) ↔ n.IsInteger)) ∧
    (∀ k : Int64, ofText? (toString k.toInt) = some (.int k)) := by
  refine ⟨fun text => ?_, fun n lexeme spells => ⟨spells.isDecimal, n.value, ?_, ?_⟩,
    ofText?_toString⟩
  · exact ⟨fun _ => ofText?_eq_some_iff, fun _ => ofTextPrefix_eq_iff,
      fun _ => ofTextPrefix_of_ofText?, fun _ _ => isValid_of_bytes⟩
  · exact fun other => Numeral.denotes_iff.trans eq_comm
  · exact n.denotes_value.isInteger_iff

/-- The mark of an exponent is left over where no digits come after it. -/
theorem reads_numbers_leftover :
    (∀ number, ofText? " -12e+" ≠ some number) ∧ ofTextPrefix " -12e+" = .int (-12) := by
  have reads := reads_numbers.1 " -12e+"
  let n : Numeral := ⟨true, ['1', '2'], none, none⟩
  have scanned : Numeral.scan (afterBlanks " -12e+") = some (n, ['e', '+']) := by decide
  constructor
  · intro number numeric
    obtain ⟨m, spells, -⟩ := (reads.whole number).mp numeric
    cases scanned.symm.trans spells.scan
  · obtain ⟨lexeme, longest⟩ := Numeral.exists_isLongest_iff.mpr ⟨_, scanned⟩
    have isWhole : n.IsWhole := ⟨rfl, rfl⟩
    have denotes : n.Denotes (.int (-12)) := by
      refine ⟨isWhole, ?_⟩
      rw [Numeral.rational_of_isWhole isWhole]
      exact congrArg Int.cast (by decide)
    exact (reads.head _).mpr (.inl ⟨n, lexeme, longest, denotes⟩)

end Number

end EditGuard
