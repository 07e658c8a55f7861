import EditGuard.Proofs.Rule.Gaps
import EditGuard.Proofs.Stateful

/-!
# Where lexemes end

A lexeme is recognised by looking at characters behind it: a number by the letter that may
follow it, a sign by the longer signs.  None of this looks beyond a character that can begin a
gap, so what is read in front of a gap does not depend on the gap.
-/

namespace EditGuard.Rule

/-- What follows does not go on with any word: it begins with a blank, or with the slash of a
comment, or there is nothing. -/
def WordEnds (rest : List Char) : Prop :=
  ∀ c ∈ rest.head?, Text.isBlank c = true ∨ c = '/'

/-- What begins with a gap ends a word if the gap or all of the rest is empty. -/
theorem Gap.ends {gap : List Char} (isGap : Gap gap) : WordEnds gap := by
  rintro c mem
  cases isGap with
  | nothing => cases mem
  | blank isBlank =>
      cases mem
      exact .inl isBlank
  | comment =>
      cases mem
      exact .inr rfl

theorem Gap.ends_append {gap : List Char} (isGap : Gap gap) (nonempty : gap ≠ [])
    (rest : List Char) : WordEnds (gap ++ rest) := by
  obtain ⟨c, cs, rfl⟩ := List.exists_cons_of_ne_nil nonempty
  exact isGap.ends

namespace Lexeme

/-! ## Characters of words -/

theorem isUpper_iff {c : Char} : c.isUpper = true ↔ 65 ≤ c.toNat ∧ c.toNat ≤ 90 :=
  decide_eq_true_iff.trans (and_congr UInt32.le_iff_toNat_le UInt32.le_iff_toNat_le)

theorem isLower_iff {c : Char} : c.isLower = true ↔ 97 ≤ c.toNat ∧ c.toNat ≤ 122 := by
  change (decide _ && decide _) = true ↔ _
  rw [Bool.and_eq_true, decide_eq_true_iff, decide_eq_true_iff]
  exact and_congr UInt32.le_iff_toNat_le UInt32.le_iff_toNat_le

theorem isDigit_iff {c : Char} : c.isDigit = true ↔ 48 ≤ c.toNat ∧ c.toNat ≤ 57 := by
  change (decide _ && decide _) = true ↔ _
  rw [Bool.and_eq_true, decide_eq_true_iff, decide_eq_true_iff]
  exact and_congr UInt32.le_iff_toNat_le UInt32.le_iff_toNat_le

theorem isNameChar_iff {c : Char} : isNameChar c = true ↔
    ((c.isUpper = true ∨ c.isLower = true) ∨ c.isDigit = true) ∨ c = '_' := by
  change (((c.isUpper || c.isLower) || c.isDigit) || c == '_') = true ↔ _
  simp only [Bool.or_eq_true, beq_iff_eq]

theorem isNameChar_of_isDigit {c : Char} (digit : c.isDigit = true) : isNameChar c = true :=
  isNameChar_iff.mpr (.inl (.inr digit))

theorem isNameChar_of_isLower {c : Char} (lower : c.isLower = true) : isNameChar c = true :=
  isNameChar_iff.mpr (.inl (.inl (.inr lower)))

theorem isNameChar_of_isUpper {c : Char} (upper : c.isUpper = true) : isNameChar c = true :=
  isNameChar_iff.mpr (.inl (.inl (.inl upper)))

theorem isNameChar_of_isHexDigit {c : Char} (digit : Text.isHexDigit c = true) :
    isNameChar c = true := by
  unfold Text.isHexDigit Text.hexValue? at digit
  split at digit
  · next decimal => exact isNameChar_of_isDigit decimal
  split at digit
  · next letter =>
      apply isNameChar_of_isLower
      exact isLower_iff.mpr ⟨UInt32.le_iff_toNat_le.mp letter.1,
        Nat.le_trans (UInt32.le_iff_toNat_le.mp letter.2) (by decide)⟩
  split at digit
  · next letter =>
      apply isNameChar_of_isUpper
      exact isUpper_iff.mpr ⟨UInt32.le_iff_toNat_le.mp letter.1,
        Nat.le_trans (UInt32.le_iff_toNat_le.mp letter.2) (by decide)⟩
  · cases digit

end Lexeme

namespace WordEnds

open Lexeme (isNameChar)

variable {rest : List Char} {c : Char}

theorem take (ends : WordEnds rest) (n : Nat) : WordEnds (rest.take n) := by
  intro c mem
  cases n with
  | zero => cases mem
  | succ n =>
      rw [List.head?_take, if_neg (Nat.succ_ne_zero n)] at mem
      exact ends c mem

theorem not_nameChar (ends : WordEnds rest) (mem : c ∈ rest.head?) : isNameChar c = false := by
  rcases ends c mem with blank | rfl
  · apply Bool.eq_false_iff.mpr
    intro inName
    simp only [Text.isBlank, Bool.or_eq_true, Bool.and_eq_true, decide_eq_true_eq, beq_iff_eq]
      at blank
    rcases Lexeme.isNameChar_iff.mp inName with ((upper | lower) | digit) | rfl
    · have := Lexeme.isUpper_iff.mp upper
      omega
    · have := Lexeme.isLower_iff.mp lower
      omega
    · have := Lexeme.isDigit_iff.mp digit
      omega
    · revert blank
      decide
  · rfl

/-- What ends a word begins with no point and goes on with no sign. -/
theorem not_sign (ends : WordEnds rest) (mem : c ∈ rest.head?) : c ≠ '.' ∧ c ≠ '=' ∧ c ≠ '*' := by
  rcases ends c mem with blank | rfl
  · refine ⟨?_, ?_, ?_⟩ <;> rintro rfl <;> exact absurd blank (by decide)
  · decide

/-- Characters of words are not looked for beyond the end of a word. -/
theorem takeWhile_append (ends : WordEnds rest) {p : Char → Bool}
    (inWords : ∀ c, p c = true → isNameChar c = true) (cs : List Char) :
    (cs ++ rest).takeWhile p = cs.takeWhile p := by
  have stops : rest.takeWhile p = [] := by
    cases rest with
    | nil => rfl
    | cons c rest =>
        apply List.takeWhile_cons_of_neg
        intro kind
        exact absurd (inWords c kind) (Bool.eq_false_iff.mp (ends.not_nameChar rfl))
  rw [List.takeWhile_append]
  split
  · next all =>
      rw [stops, List.append_nil]
      exact ((List.takeWhile_prefix p).eq_of_length all).symm
  · rfl

/-- Up to the end of a word, the next character is the same or none that could stand in a
word. -/
theorem getElem?_append (ends : WordEnds rest) {cs : List Char} {i : Nat} (inside : i ≤ cs.length) :
    (cs ++ rest)[i]? = cs[i]? ∨
      cs[i]? = none ∧ ∃ c, (cs ++ rest)[i]? = some c ∧ isNameChar c = false := by
  by_cases short : i < cs.length
  · exact .inl (List.getElem?_append_left short)
  have last : i = cs.length := by omega
  have beyond : cs[i]? = none := List.getElem?_eq_none (by omega)
  rw [List.getElem?_append_right (by omega), last, Nat.sub_self, ← last, beyond]
  cases rest with
  | nil => exact .inl rfl
  | cons c rest => exact .inr ⟨rfl, c, rfl, ends.not_nameChar rfl⟩

end WordEnds

namespace Lexeme

variable {rest : List Char}

/-! ## Numbers -/

theorem fractionDigits?_append (ends : WordEnds rest) (whole cs : List Char) :
    fractionDigits? whole (cs ++ rest) = fractionDigits? whole cs := by
  cases cs with
  | nil =>
      cases rest with
      | nil => rfl
      | cons c rest =>
          rw [List.nil_append, fractionDigits?]
          · rfl
          · rintro _ ⟨⟩
            exact (ends.not_sign rfl).1 rfl
  | cons c cs =>
      by_cases point : c = '.'
      · subst point
        rw [List.cons_append, fractionDigits?, fractionDigits?,
          ends.takeWhile_append fun _ => isNameChar_of_isDigit]
      · rw [List.cons_append, fractionDigits?, fractionDigits?]
        all_goals
          rintro _ ⟨⟩
          exact point rfl

theorem radixOf_eq_ten {c : Char} (other : isNameChar c = false) : radixOf (some c) = 10 := by
  unfold radixOf
  split
  · next same => cases same; cases other
  split
  · next same => cases same; cases other
  split
  · next same => cases same; cases other
  · rfl

theorem radixOf_append (ends : WordEnds rest) {cs : List Char} {i : Nat} (inside : i ≤ cs.length) :
    radixOf (cs ++ rest)[i]? = radixOf cs[i]? := by
  rcases ends.getElem?_append inside with same | ⟨beyond, c, next, other⟩
  · rw [same]
  · rw [beyond, next, radixOf_eq_ten other]
    rfl

theorem isLower_append (ends : WordEnds rest) {cs : List Char} {i : Nat} (inside : i ≤ cs.length) :
    ((cs ++ rest)[i]?.map Char.isLower).getD false = (cs[i]?.map Char.isLower).getD false := by
  rcases ends.getElem?_append inside with same | ⟨beyond, c, next, other⟩
  · rw [same]
  · have notLower : c.isLower = false := by
      apply Bool.eq_false_iff.mpr
      intro lower
      exact absurd (isNameChar_of_isLower lower) (Bool.eq_false_iff.mp other)
    rw [beyond, next, Option.map_some, notLower]
    rfl

/-- The digits after a point are fewer than the characters there. -/
theorem length_fractionDigits? (whole cs : List Char) :
    ((fractionDigits? whole cs).map fun ds => ds.length + 1).getD 0 ≤ cs.length := by
  unfold fractionDigits?
  split
  · dsimp only
    split
    · exact Nat.zero_le _
    · exact Nat.succ_le_succ (List.takeWhile_prefix _).length_le
  · exact Nat.zero_le _

/-- The digits that a number begins with. -/
def wholeDigits (cs : List Char) : List Char :=
  cs.takeWhile Text.isHexDigit

/-- The digits after the point of a number. -/
def pointDigits? (cs : List Char) : Option (List Char) :=
  fractionDigits? (wholeDigits cs) (cs.drop (wholeDigits cs).length)

/-- The number of all digits of a number, with the point. -/
def bodyLength (cs : List Char) : Nat :=
  (wholeDigits cs).length + ((pointDigits? cs).map fun ds => ds.length + 1).getD 0

/-- The base of a number by the letter after it. -/
def radix (cs : List Char) : Nat :=
  radixOf cs[bodyLength cs]?

/-- The number of characters of a number. -/
def numberLength (cs : List Char) : Nat :=
  if radix cs = 10 then bodyLength cs else bodyLength cs + 1

/-- A number at the head of a text that is looked at as a whole. -/
def numberAtHead? (cs : List Char) : Option (Lexeme × Nat) :=
  if bodyLength cs = 0 then none
  else if (cs[numberLength cs]?.map Char.isLower).getD false then none
  else
    match pointDigits? cs with
    | some digits =>
        if radix cs = 10 then (fraction? (wholeDigits cs) digits).map (·, numberLength cs)
        else none
    | none =>
        if radix cs = 10 ∧ 1 < (wholeDigits cs).length ∧ (wholeDigits cs).getLast? = some 'b' then
          (wholeNumber? 2 (wholeDigits cs).dropLast).map (·, numberLength cs)
        else (wholeNumber? (radix cs) (wholeDigits cs)).map (·, numberLength cs)

theorem number?_eq (cs : List Char) : number? cs = numberAtHead? (cs.take numberWindow) :=
  rfl

theorem bodyLength_le (cs : List Char) : bodyLength cs ≤ cs.length := by
  have whole : (wholeDigits cs).length ≤ cs.length := (List.takeWhile_prefix _).length_le
  have point := length_fractionDigits? (wholeDigits cs) (cs.drop (wholeDigits cs).length)
  rw [List.length_drop] at point
  unfold bodyLength pointDigits?
  omega

theorem numberLength_le (cs : List Char) : numberLength cs ≤ cs.length := by
  unfold numberLength
  split
  · exact bodyLength_le cs
  · next letter =>
      apply Nat.lt_of_not_le
      intro beyond
      rw [radix, List.getElem?_eq_none beyond] at letter
      exact letter rfl

/-- What ends a word adds nothing to a number in front of it. -/
theorem numberAtHead?_append (ends : WordEnds rest) (cs : List Char) :
    numberAtHead? (cs ++ rest) = numberAtHead? cs := by
  have whole : wholeDigits (cs ++ rest) = wholeDigits cs :=
    ends.takeWhile_append (fun _ => isNameChar_of_isHexDigit) cs
  have inside : (wholeDigits cs).length ≤ cs.length := (List.takeWhile_prefix _).length_le
  have point : pointDigits? (cs ++ rest) = pointDigits? cs := by
    rw [pointDigits?, whole, List.drop_append_of_le_length inside, fractionDigits?_append ends]
    rfl
  have body : bodyLength (cs ++ rest) = bodyLength cs := by
    rw [bodyLength, whole, point]
    rfl
  have base : radix (cs ++ rest) = radix cs := by
    rw [radix, body, radixOf_append ends (bodyLength_le cs)]
    rfl
  have length : numberLength (cs ++ rest) = numberLength cs := by
    rw [numberLength, body, base]
    rfl
  rw [numberAtHead?, body, length, whole, point, base,
    isLower_append ends (numberLength_le cs)]
  rfl

theorem number?_append (ends : WordEnds rest) (cs : List Char) :
    number? (cs ++ rest) = number? cs := by
  rw [number?_eq, number?_eq, List.take_append, numberAtHead?_append (ends.take _)]

theorem length_of_number? {cs : List Char} {lexeme : Lexeme} {n : Nat}
    (found : number? cs = some (lexeme, n)) : 0 < n ∧ n ≤ cs.length := by
  rw [number?_eq, numberAtHead?] at found
  split at found
  · cases found
  next digits =>
  split at found
  · cases found
  have same : n = numberLength (cs.take numberWindow) := by
    have ofMap {value : Option Lexeme}
        (found : value.map (·, numberLength (cs.take numberWindow)) = some (lexeme, n)) :
        n = numberLength (cs.take numberWindow) := by
      obtain ⟨_, -, same⟩ := Option.map_eq_some_iff.mp found
      exact (Prod.mk.inj same).2.symm
    split at found
    · split at found
      · exact ofMap found
      · cases found
    · split at found <;> exact ofMap found
  subst same
  constructor
  · have positive := Nat.pos_of_ne_zero digits
    unfold numberLength
    split <;> omega
  · exact Nat.le_trans (numberLength_le _) (List.length_take_le' _ _)

/-! ## Texts in quotes -/

/-- What an escape without a code stands for. -/
def escapeChars (e : Char) : List Char :=
  match simpleEscape? e with
  | some d => [d]
  | none => ['\\', e]

/-- Characters up to a closing quote spell the characters of a text. -/
inductive Spells (quote : Char) : List Char → List Char → Prop
  | close : Spells quote [quote] []
  | plain {c cs ds} (notQuote : c ≠ quote) (notEscape : c ≠ '\\') (more : Spells quote cs ds) :
      Spells quote (c :: cs) (c :: ds)
  | code {high low d cs ds} (coded : codeEscape? high low = some d) (more : Spells quote cs ds) :
      Spells quote ('\\' :: 'x' :: high :: low :: cs) (d :: ds)
  | escape {e cs ds} (notCode : e ≠ 'x') (more : Spells quote cs ds) :
      Spells quote ('\\' :: e :: cs) (escapeChars e ++ ds)

section TextBody

variable {quote : Char} {taken : Nat}

theorem textBody_close (cs : List Char) :
    textBody quote taken (quote :: cs) = .ok ([], taken + 1) := by
  rw [textBody.eq_def]
  dsimp only
  rw [if_pos rfl]

theorem textBody_plain {c : Char} (notQuote : c ≠ quote) (notEscape : c ≠ '\\')
    (cs : List Char) :
    textBody quote taken (c :: cs) =
      (textBody quote (taken + 1) cs).map fun r => (c :: r.1, r.2) := by
  rw [textBody.eq_def]
  dsimp only
  rw [if_neg notQuote, if_neg notEscape]

theorem textBody_code (notEscape : quote ≠ '\\') {high low d : Char}
    (coded : codeEscape? high low = some d) (cs : List Char) :
    textBody quote taken ('\\' :: 'x' :: high :: low :: cs) =
      (textBody quote (taken + 4) cs).map fun r => (d :: r.1, r.2) := by
  rw [textBody, if_neg notEscape.symm, if_pos rfl]
  simp only [coded]

theorem textBody_escape (notEscape : quote ≠ '\\') {e : Char} (notCode : e ≠ 'x')
    (cs : List Char) :
    textBody quote taken ('\\' :: e :: cs) =
      (textBody quote (taken + 2) cs).map fun r => (escapeChars e ++ r.1, r.2) := by
  rw [textBody, if_neg notEscape.symm, if_pos rfl]
  · unfold escapeChars
    cases simpleEscape? e <;> rfl
  · exact fun _ _ _ isCode _ => notCode isCode
  · exact notCode

theorem textBody_of_spells (notEscape : quote ≠ '\\') {cs ds : List Char}
    (spells : Spells quote cs ds) (rest : List Char) :
    textBody quote taken (cs ++ rest) = .ok (ds, taken + cs.length) := by
  induction spells generalizing taken with
  | close => rw [List.singleton_append, textBody_close, List.length_singleton]
  | plain notQuote notBackslash more ih =>
      rw [List.cons_append, textBody_plain notQuote notBackslash, ih, List.length_cons]
      simp only [Except.map]
      congr 2
      omega
  | code coded more ih =>
      simp only [List.cons_append, textBody_code notEscape coded, ih, List.length_cons, Except.map]
      congr 2
      omega
  | escape notCode more ih =>
      simp only [List.cons_append, textBody_escape notEscape notCode, ih, List.length_cons,
        Except.map]
      congr 2
      omega

theorem escapeChars_of_some {e d : Char} (simple : simpleEscape? e = some d) :
    escapeChars e = [d] := by
  rw [escapeChars, simple]

theorem escapeChars_of_none {e : Char} (unknown : simpleEscape? e = none) :
    escapeChars e = ['\\', e] := by
  rw [escapeChars, unknown]

theorem spells_of_textBody {cs ds : List Char} {n : Nat}
    (read : textBody quote taken cs = .ok (ds, n)) :
    ∃ written rest, cs = written ++ rest ∧ n = taken + written.length ∧
      Spells quote written ds := by
  fun_induction textBody quote taken cs generalizing ds n with
  | case1 | case3 | case4 | case6 => cases read
  | case2 =>
      cases read
      exact ⟨[quote], _, rfl, rfl, .close⟩
  | case5 _ high low _ d coded _ ih =>
      obtain ⟨⟨more, m⟩, readMore, same⟩ := exists_of_map_eq_ok read
      obtain ⟨written, rest, rfl, rfl, spells⟩ := ih readMore
      cases same
      exact ⟨'\\' :: 'x' :: high :: low :: written, rest, rfl, by simp; omega, .code coded spells⟩
  | case7 _ e _ _ notCode d simple _ ih =>
      obtain ⟨⟨more, m⟩, readMore, same⟩ := exists_of_map_eq_ok read
      obtain ⟨written, rest, rfl, rfl, spells⟩ := ih readMore
      cases same
      refine ⟨'\\' :: e :: written, rest, rfl, by simp; omega, ?_⟩
      have escaped := Spells.escape notCode spells
      rwa [escapeChars_of_some simple] at escaped
  | case8 _ e _ _ notCode unknown _ ih =>
      obtain ⟨⟨more, m⟩, readMore, same⟩ := exists_of_map_eq_ok read
      obtain ⟨written, rest, rfl, rfl, spells⟩ := ih readMore
      cases same
      refine ⟨'\\' :: e :: written, rest, rfl, by simp; omega, ?_⟩
      have escaped := Spells.escape notCode spells
      rwa [escapeChars_of_none unknown] at escaped
  | case9 _ c _ notQuote notEscape ih =>
      obtain ⟨⟨more, m⟩, readMore, same⟩ := exists_of_map_eq_ok read
      obtain ⟨written, rest, rfl, rfl, spells⟩ := ih readMore
      cases same
      exact ⟨c :: written, rest, rfl, by simp; omega, .plain notQuote notEscape spells⟩

/-- A text without its end is reported where it begins, a code that is none where its escape
does. -/
theorem place_of_textBody {cs : List Char} {p : Problem} {before : Nat}
    (failed : textBody quote taken cs = .error (p, before)) :
    before = 0 ∨ ∃ i, before = taken + i ∧ cs[i]? = some '\\' := by
  fun_induction textBody quote taken cs with
  | case1 | case3 =>
      cases failed
      exact .inl rfl
  | case2 => cases failed
  | case4 | case6 =>
      cases failed
      exact .inr ⟨0, rfl, rfl⟩
  | case5 _ _ _ _ _ _ _ ih =>
      obtain rfl | ⟨i, rfl, found⟩ := ih (eq_error_of_map failed)
      · exact .inl rfl
      · exact .inr ⟨i + 4, by omega, found⟩
  | case7 _ _ _ _ _ _ _ _ ih | case8 _ _ _ _ _ _ _ ih =>
      obtain rfl | ⟨i, rfl, found⟩ := ih (eq_error_of_map failed)
      · exact .inl rfl
      · exact .inr ⟨i + 2, by omega, found⟩
  | case9 _ _ _ _ _ ih =>
      obtain rfl | ⟨i, rfl, found⟩ := ih (eq_error_of_map failed)
      · exact .inl rfl
      · exact .inr ⟨i + 1, by omega, found⟩

end TextBody

/-! ## Words and signs -/

theorem symbol_eq_cons (op : Operator) :
    ∃ c more, op.symbol = c :: more ∧ ∀ d ∈ more, d = '=' ∨ d = '*' := by
  cases op <;> exact ⟨_, _, rfl, by simp⟩

theorem isPrefixOf_append (ends : WordEnds rest) {sign : List Char}
    (longer : ∀ d ∈ sign, d = '=' ∨ d = '*') (cs : List Char) :
    sign.isPrefixOf (cs ++ rest) = sign.isPrefixOf cs := by
  induction sign generalizing cs with
  | nil => rw [List.isPrefixOf_nil_left, List.isPrefixOf_nil_left]
  | cons d sign ih =>
      obtain ⟨here, longer⟩ := List.forall_mem_cons.mp longer
      cases cs with
      | nil =>
          cases rest with
          | nil => rfl
          | cons c rest =>
              obtain ⟨-, notEqual, notTimes⟩ := ends.not_sign rfl
              have other : (d == c) = false := by
                rcases here with rfl | rfl
                · exact beq_false_of_ne notEqual.symm
                · exact beq_false_of_ne notTimes.symm
              simp only [List.nil_append, List.isPrefixOf, other, Bool.false_and]
      | cons c cs =>
          rw [List.cons_append, List.isPrefixOf, List.isPrefixOf, ih longer]

theorem atHead?_append (ends : WordEnds rest) (c : Char) (cs : List Char) :
    Operator.atHead? (c :: cs ++ rest) = Operator.atHead? (c :: cs) := by
  have same (op : Operator) :
      op.symbol.isPrefixOf (c :: cs ++ rest) = op.symbol.isPrefixOf (c :: cs) := by
    obtain ⟨d, more, spelled, longer⟩ := symbol_eq_cons op
    rw [spelled, List.cons_append, List.isPrefixOf, List.isPrefixOf,
      isPrefixOf_append ends longer]
  rw [Operator.atHead?, Operator.atHead?, funext same]

theorem length_of_atHead? {cs : List Char} {op : Operator}
    (found : Operator.atHead? cs = some op) :
    0 < op.symbol.length ∧ op.symbol.length ≤ cs.length := by
  have begins : op.symbol.isPrefixOf cs = true := by
    have kind := List.find?_some found
    exact kind
  have isPrefix : op.symbol <+: cs := List.isPrefixOf_iff_prefix.mp begins
  obtain ⟨c, more, spelled, -⟩ := symbol_eq_cons op
  refine ⟨?_, isPrefix.length_le⟩
  rw [spelled]
  exact Nat.succ_pos _

theorem wordOrSign_append (ends : WordEnds rest) (c : Char) (cs : List Char) :
    wordOrSign (c :: cs ++ rest) = wordOrSign (c :: cs) := by
  rw [wordOrSign, ends.takeWhile_append fun _ inName => inName, atHead?_append ends]
  rfl

theorem length_of_wordOrSign {cs : List Char} {lexeme : Lexeme} {n : Nat}
    (read : wordOrSign cs = .ok (lexeme, n)) : 0 < n ∧ n ≤ cs.length := by
  unfold wordOrSign at read
  dsimp only at read
  split at read
  · split at read
    · next found =>
        cases read
        exact length_of_atHead? found
    · cases read
  · next nonempty =>
      cases read
      refine ⟨List.length_pos_of_ne_nil ?_, (List.takeWhile_prefix _).length_le⟩
      intro empty
      exact nonempty (List.isEmpty_iff.mpr empty)

theorem place_of_wordOrSign {cs : List Char} {p : Problem} {before : Nat}
    (failed : wordOrSign cs = .error (p, before)) : before = 0 := by
  unfold wordOrSign at failed
  dsimp only at failed
  split at failed
  · split at failed
    · cases failed
    · cases failed
      rfl
  · cases failed

/-! ## Reading a lexeme -/

variable {first : Char} {cs : List Char} {lexeme : Lexeme} {n : Nat}

/-- A character that begins a text in quotes. -/
def IsQuote (c : Char) : Prop :=
  c = '"' ∨ c = '\''

theorem IsQuote.ne_backslash (quoted : IsQuote first) : first ≠ '\\' := by
  rcases quoted with rfl | rfl <;> decide

theorem read_quoted (quoted : IsQuote first) (cs : List Char) :
    read first cs = (textBody first 1 cs).map fun r => (text (String.ofList r.1), r.2) := by
  rcases quoted with rfl | rfl <;> rfl

/-- A lexeme that is not in quotes does not depend on what ends it. -/
theorem read_append_of_unquoted (unquoted : ¬IsQuote first) (ends : WordEnds rest)
    (cs : List Char) :
    read first (cs ++ rest) = read first cs := by
  have comment : (cs ++ rest).head? = some '*' ↔ cs.head? = some '*' := by
    cases cs with
    | nil =>
        refine ⟨?_, nofun⟩
        intro times
        exact absurd rfl (ends.not_sign times).2.2
    | cons c cs => exact Iff.rfl
  have notText : ¬(first = '"' ∨ first = '\'') := unquoted
  unfold read
  rw [if_neg notText, if_neg notText]
  simp only [comment]
  rw [← List.cons_append, number?_append ends, wordOrSign_append ends]

theorem read_eq_ok_of_quoted (quoted : IsQuote first) (found : read first cs = .ok (lexeme, n)) :
    ∃ written more chars, cs = written ++ more ∧ n = written.length + 1 ∧
      Spells first written chars ∧ lexeme = text (String.ofList chars) := by
  rw [read_quoted quoted] at found
  obtain ⟨⟨chars, m⟩, spelled, same⟩ := exists_of_map_eq_ok found
  obtain ⟨written, more, rfl, rfl, spells⟩ := spells_of_textBody spelled
  cases same
  exact ⟨written, more, chars, rfl, Nat.add_comm _ _, spells, rfl⟩

theorem read_of_spells (quoted : IsQuote first) {written chars : List Char}
    (spells : Spells first written chars) (more : List Char) :
    read first (written ++ more) = .ok (text (String.ofList chars), written.length + 1) := by
  rw [read_quoted quoted, textBody_of_spells quoted.ne_backslash spells, Nat.add_comm]
  rfl

/-- What is read in front of what ends a word is read without it, and in front of anything
else that does. -/
theorem read_append_iff (ends : WordEnds rest) (inside : n ≤ cs.length + 1) :
    read first (cs ++ rest) = .ok (lexeme, n) ↔ read first cs = .ok (lexeme, n) := by
  by_cases quoted : IsQuote first
  · constructor
    · intro found
      obtain ⟨written, more, chars, same, rfl, spells, rfl⟩ := read_eq_ok_of_quoted quoted found
      obtain ⟨behind, rfl⟩ : written <+: cs :=
        List.prefix_of_prefix_length_le ⟨more, same.symm⟩ (List.prefix_append cs rest)
          (Nat.le_of_succ_le_succ inside)
      exact read_of_spells quoted spells behind
    · intro found
      obtain ⟨written, more, chars, rfl, rfl, spells, rfl⟩ := read_eq_ok_of_quoted quoted found
      rw [List.append_assoc]
      exact read_of_spells quoted spells (more ++ rest)
  · rw [read_append_of_unquoted quoted ends]

/-- A lexeme that is not in quotes is a sign of one character, a number, or a word or another
sign, unless it would be a comment. -/
theorem read_cases (unquoted : ¬IsQuote first) (cs : List Char) :
    read first cs = .error (.unclosedComment, 0) ∨
      (∃ sign, read first cs = .ok (sign, 1)) ∨
      (∃ number, number? (first :: cs) = some number ∧ read first cs = .ok number) ∨
      read first cs = wordOrSign (first :: cs) := by
  have notText : ¬(first = '"' ∨ first = '\'') := unquoted
  rw [read, if_neg notText]
  split
  · exact .inl rfl
  right
  split
  · exact .inl ⟨_, rfl⟩
  split
  · exact .inl ⟨_, rfl⟩
  split
  · exact .inl ⟨_, rfl⟩
  split
  · exact .inl ⟨_, rfl⟩
  split
  · exact .inl ⟨_, rfl⟩
  split
  · exact .inl ⟨_, rfl⟩
  right
  split
  · cases number? (first :: cs) with
    | some number => exact .inl ⟨number, rfl, rfl⟩
    | none => exact .inr rfl
  · exact .inr rfl

/-- A lexeme has characters, all of them in the text. -/
theorem length_of_read (found : read first cs = .ok (lexeme, n)) : 0 < n ∧ n ≤ cs.length + 1 := by
  by_cases quoted : IsQuote first
  · obtain ⟨written, more, chars, rfl, rfl, -⟩ := read_eq_ok_of_quoted quoted found
    rw [List.length_append]
    omega
  rcases read_cases quoted cs with failed | ⟨sign, single⟩ | ⟨number, isNumber, same⟩ | same
  · cases failed.symm.trans found
  · cases single.symm.trans found
    exact ⟨Nat.one_pos, Nat.le_add_left _ _⟩
  · cases same.symm.trans found
    exact length_of_number? isNumber
  · exact length_of_wordOrSign (same.symm.trans found)

/-- A problem is reported where the lexeme begins, or at an escape in it. -/
theorem place_of_read {p : Problem} {before : Nat} (failed : read first cs = .error (p, before)) :
    before = 0 ∨ (first :: cs)[before]? = some '\\' := by
  by_cases quoted : IsQuote first
  · rw [read_quoted quoted] at failed
    obtain rfl | ⟨i, rfl, found⟩ := place_of_textBody (eq_error_of_map failed)
    · exact .inl rfl
    · rw [Nat.add_comm]
      exact .inr found
  rcases read_cases quoted cs with comment | ⟨sign, single⟩ | ⟨number, -, same⟩ | same
  · cases comment.symm.trans failed
    exact .inl rfl
  · cases single.symm.trans failed
  · cases same.symm.trans failed
  · exact .inl (place_of_wordOrSign (same.symm.trans failed))

theorem not_blank_of_symbol (op : Operator) {c : Char} (begins : op.symbol.head? = some c) :
    Text.isBlank c = false := by
  cases op <;> cases begins <;> rfl

/-- No lexeme begins with a blank. -/
theorem read_blank (blank : Text.isBlank first = true) (cs : List Char) :
    read first cs = .error (.unrecognisedToken (String.ofList [first]), 0) := by
  have other {c : Char} (visible : Text.isBlank c = false) : first ≠ c := by
    rintro rfl
    rw [visible] at blank
    cases blank
  have ends : WordEnds (first :: cs) := by
    rintro _ ⟨⟩
    exact .inl blank
  have noWord : (first :: cs).takeWhile isNameChar = [] :=
    ends.takeWhile_append (fun _ inName => inName) []
  have noSign : Operator.atHead? (first :: cs) = none := by
    rw [Operator.atHead?, List.find?_eq_none]
    intro op _ begins
    obtain ⟨c, more, spelled, -⟩ := symbol_eq_cons op
    have begun : op.symbol.head? = some c := by
      rw [spelled]
      rfl
    have visible := not_blank_of_symbol op begun
    rw [spelled, List.isPrefixOf, Bool.and_eq_true, beq_iff_eq] at begins
    exact other visible begins.1.symm
  have noNumber : number? (first :: cs) = none := number?_append ends []
  have noLexeme : wordOrSign (first :: cs) =
      .error (.unrecognisedToken (String.ofList [first]), 0) := by
    rw [wordOrSign, noWord, noSign]
    rfl
  have unquoted : ¬(first = '"' ∨ first = '\'') := by
    rintro (rfl | rfl) <;> cases blank
  rw [read, if_neg fun comment => other (by decide) comment.1, if_neg (other (by decide)),
    if_neg (other (by decide)), if_neg (other (by decide)), if_neg (other (by decide)),
    if_neg (other (by decide)), if_neg (other (by decide)), if_neg unquoted, noNumber, noLexeme]
  split <;> rfl

/-- Where a lexeme is read there is no more of a gap. -/
theorem gapLength_of_read {found : Lexeme × Nat} (isRead : read first cs = .ok found) :
    gapLength (first :: cs) = 0 := by
  have visible : ¬Text.isBlank first = true := by
    intro blank
    cases (read_blank blank cs).symm.trans isRead
  rw [gapLength_cons, if_neg visible]
  rintro ⟨rfl, star⟩
  obtain ⟨rest, rfl⟩ := List.head?_eq_some_iff.mp star
  cases isRead

end Lexeme

end EditGuard.Rule
