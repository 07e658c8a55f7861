import EditGuard.Proofs.Decimal.Digits
import EditGuard.Proofs.Number.Arithmetic
import EditGuard.Proofs.Rule.Completeness
import EditGuard.Proofs.Rule.Nesting

/-!
# Texts and numbers as literals

Any text can be put in quotes, with escapes in it, so that the lexer reads one literal of that
text whatever follows.  A decimal number is looked for in a window: digits that fit into it are
one literal, and more of them are cut into several, which are no rule.
-/

namespace EditGuard.Rule

open Grammar

/-! ## Texts in quotes -/

namespace Lexeme

/-- A character in quotes, with an escape in front of it if it is a quote or begins escapes. -/
def guarded (quote c : Char) : List Char :=
  if c = '\\' ∨ c = quote then ['\\', c] else [c]

/-- A text in quotes. -/
def inQuotes (quote : Char) (text : String) : List Char :=
  quote :: (text.toList.flatMap (guarded quote) ++ [quote])

variable {quote : Char}

/-- Backslashes and quotes stand for themselves behind a backslash. -/
theorem escapeChars_guarded (isQuote : IsQuote quote) {c : Char} (special : c = '\\' ∨ c = quote) :
    escapeChars c = [c] := by
  apply escapeChars_of_some
  rw [simpleEscape?, if_pos]
  rcases special with rfl | rfl
  · exact .inl rfl
  · exact .inr isQuote

theorem spells_guarded (isQuote : IsQuote quote) (cs : List Char) :
    Spells quote (cs.flatMap (guarded quote) ++ [quote]) cs := by
  induction cs with
  | nil => exact .close
  | cons c cs ih =>
      rw [List.flatMap_cons, guarded]
      split
      · next special =>
          have notCode : c ≠ 'x' := by
            rcases special with rfl | rfl
            · decide
            · rcases isQuote with rfl | rfl <;> decide
          have spells := Spells.escape notCode ih
          rwa [escapeChars_guarded isQuote special] at spells
      · next plain =>
          rw [not_or] at plain
          exact .plain plain.2 plain.1 ih

end Lexeme

/-- A text in quotes is one token, whatever comes behind it. -/
theorem Tokens.from_inQuotes {quote : Char} (isQuote : Lexeme.IsQuote quote) (text : String)
    {gap : List Char} (isGap : Gap gap) (rest : List Char) (m : Mark) :
    Tokens.from m (gap ++ Lexeme.inQuotes quote text ++ rest) =
      (Tokens.from (m.after (gap ++ Lexeme.inQuotes quote text)) rest).map fun more =>
        ⟨⟨.text text, String.ofList (Lexeme.inQuotes quote text),
          ⟨m.after gap, (m.after (gap ++ Lexeme.inQuotes quote text)).offset⟩⟩ :: more.tokens,
          more.finish⟩ := by
  have read := Lexeme.read_of_spells isQuote (Lexeme.spells_guarded isQuote text.toList) rest
  rw [String.ofList_toList] at read
  exact from_word isGap read m

namespace Source

/-- A text in quotes between gaps is one literal of that text, which takes all that is written
of it. -/
theorem tokens_inQuotes {s : Source} {quote : Char} (isQuote : Lexeme.IsQuote quote)
    (text : String) {before after : List Char} (isGap : Gap before) (isLastGap : Gap after)
    (same : s.text.toList = before ++ Lexeme.inQuotes quote text ++ after) :
    s.tokens = .ok
      ⟨[⟨.text text, String.ofList (Lexeme.inQuotes quote text), ⟨Mark.start.after before,
        (Mark.start.after (before ++ Lexeme.inQuotes quote text)).offset⟩⟩],
        Mark.start.after s.text.toList⟩ := by
  rw [tokens, same, Tokens.from_inQuotes isQuote text isGap, Tokens.from_gap isLastGap,
    ← Mark.after_append]
  rfl

/-- A text with a quote of either kind, backslashes in front of a letter, a quote and the end,
a line feed and a null, in a literal between a comment and a blank. -/
def embedded : Source :=
  ⟨"embedded", "/*'*/'it\\'s \"\\\\x\\\\\\'\n\x00é\\\\' "⟩

theorem tokens_inQuotes_embedded :
    embedded.tokens = .ok
      ⟨[⟨.text "it's \"\\x\\'\n\x00é\\",
        "'it\\'s \"\\\\x\\\\\\'\n\x00é\\\\'", ⟨⟨5, 1, 6, 5⟩, 27⟩⟩],
        ⟨28, 2, 7, 27⟩⟩ := by
  have comment : Gap "/*'*/".toList :=
    .comment (show ¬['*', '/'] <:+: ['\''] by decide) .nothing
  have blank : Gap [' '] := .blank rfl .nothing
  exact tokens_inQuotes (.inr rfl) "it's \"\\x\\'\n\x00é\\" comment blank (by decide)

end Source

/-! ## Decimal numbers -/

/-- A lexeme is the number with some decimal digits: an integer of their exact value, or one in
floating point if the integer needs more than 64 bits. -/
inductive Lexeme.OfDigits (ds : List Char) : Lexeme → Prop
  | int {k : Int64} (exact : k.toInt = Nat.ofDigitChars 10 ds 0) : OfDigits ds (.int k)
  | float {x : Float} (large : ¬ Number.Fits (Nat.ofDigitChars 10 ds 0)) : OfDigits ds (.float x)

/-- A token is the number with some decimal digits at a place. -/
structure Token.IsNumber (t : Token) (m : Mark) (ds : List Char) : Prop where
  lexeme : t.lexeme.OfDigits ds
  written : t.written = String.ofList ds
  span : t.span = ⟨m, (m.after ds).offset⟩

/-- Digits at a place are cut into numbers, as many of them at a time as fit into the window in
which the lexer looks for a number. -/
inductive Windowed : Mark → List Char → List Token → Prop
  | last {m ds t} (nonempty : ds ≠ []) (short : ds.length ≤ Lexeme.numberWindow)
      (number : t.IsNumber m ds) : Windowed m ds [t]
  | more {m window ds t ts} (full : window.length = Lexeme.numberWindow)
      (number : t.IsNumber m window) (others : Windowed (m.after window) ds ts) :
      Windowed m (window ++ ds) (t :: ts)

namespace Lexeme

variable {ds : List Char}

theorem OfDigits.literal {w : Lexeme} (ofDigits : w.OfDigits ds) : ∃ v, Literal w v := by
  cases ofDigits with
  | int => exact ⟨_, .int _⟩
  | float => exact ⟨_, .float _⟩

theorem wholeNumber?_digits (digits : ∀ d ∈ ds, d.isDigit = true) :
    ∃ w, wholeNumber? 10 ds = some w ∧ w.OfDigits ds := by
  rw [wholeNumber?, Text.digitValues?_of_isDigit digits]
  dsimp only
  rw [Text.ofDigitValues_eq]
  split
  · next fits => exact ⟨_, rfl, .int (Number.toInt_ofInt fits)⟩
  · next large => exact ⟨_, rfl, .float large⟩

/-- Digits are a number, if that is all there is to look at. -/
theorem numberAtHead?_digits (nonempty : ds ≠ []) (digits : ∀ d ∈ ds, d.isDigit = true) :
    ∃ w, numberAtHead? ds = some (w, ds.length) ∧ w.OfDigits ds := by
  have whole : wholeDigits ds = ds := by
    apply List.takeWhile_eq_self_iff.mpr
    intro d mem
    rw [Text.isHexDigit, Text.hexValue?_of_isDigit (digits d mem)]
    rfl
  have point : pointDigits? ds = none := by
    rw [pointDigits?, whole, List.drop_length]
    rfl
  have body : bodyLength ds = ds.length := by
    rw [bodyLength, whole, point]
    rfl
  have base : radix ds = 10 := by
    rw [radix, body, List.getElem?_eq_none (Nat.le_refl _)]
    rfl
  have length : numberLength ds = ds.length := by
    rw [numberLength, if_pos base, body]
  have notBinary : ds.getLast? ≠ some 'b' := by
    intro binary
    cases digits _ (List.mem_of_getLast? binary)
  obtain ⟨w, found, ofDigits⟩ := wholeNumber?_digits digits
  refine ⟨w, ?_, ofDigits⟩
  rw [numberAtHead?, body, length, point, base, whole, if_neg, if_neg, if_neg, found]
  · rfl
  · exact fun binary => notBinary binary.2.2
  · rw [List.getElem?_eq_none (Nat.le_refl _)]
    exact Bool.false_ne_true
  · exact fun empty => nonempty (List.length_eq_zero_iff.mp empty)

theorem number?_of_full {window : List Char} (full : window.length = numberWindow)
    (rest : List Char) : number? (window ++ rest) = numberAtHead? window := by
  rw [number?_eq, ← full, List.take_left]

theorem number?_of_short (short : ds.length ≤ numberWindow) {rest : List Char}
    (ends : WordEnds rest) : number? (ds ++ rest) = numberAtHead? ds := by
  rw [number?_append ends, number?_eq, List.take_of_length_le short]

/-- Digits are read as a number, if no more is looked at or they end there. -/
theorem read_digits {first : Char} {cs rest : List Char}
    (digits : ∀ d ∈ first :: cs, d.isDigit = true)
    (all : number? (first :: cs ++ rest) = numberAtHead? (first :: cs)) :
    ∃ w, read first (cs ++ rest) = .ok (w, cs.length + 1) ∧ w.OfDigits (first :: cs) := by
  have digit : first.isDigit = true := digits first List.mem_cons_self
  have other {c : Char} (noDigit : c.isDigit = false) : first ≠ c := by
    rintro rfl
    rw [noDigit] at digit
    cases digit
  have unquoted : ¬(first = '"' ∨ first = '\'') := by
    rintro (rfl | rfl) <;> cases digit
  have begins : Text.isHexDigit first = true ∨ first = '.' := by
    rw [Text.isHexDigit, Text.hexValue?_of_isDigit digit]
    exact .inl rfl
  obtain ⟨w, found, ofDigits⟩ := numberAtHead?_digits (List.cons_ne_nil first cs) digits
  refine ⟨w, ?_, ofDigits⟩
  rw [read, if_neg fun comment => other (by decide) comment.1, if_neg (other (by decide)),
    if_neg (other (by decide)), if_neg (other (by decide)), if_neg (other (by decide)),
    if_neg (other (by decide)), if_neg (other (by decide)), if_neg unquoted, if_pos begins,
    ← List.cons_append, all, found]
  rfl

end Lexeme

/-- Digits between gaps are cut into numbers. -/
theorem Tokens.from_digits {gap ds after : List Char} (isGap : Gap gap) (isLastGap : Gap after)
    (nonempty : ds ≠ []) (digits : ∀ d ∈ ds, d.isDigit = true) (m : Mark) :
    ∃ ts, Tokens.from m (gap ++ ds ++ after) = .ok ⟨ts, m.after (gap ++ ds ++ after)⟩ ∧
      Windowed (m.after gap) ds ts := by
  induction h : ds.length using Nat.strongRecOn generalizing gap ds m with
  | _ n ih =>
  subst h
  by_cases short : ds.length ≤ Lexeme.numberWindow
  · obtain ⟨first, cs, rfl⟩ := List.exists_cons_of_ne_nil nonempty
    obtain ⟨w, read, ofDigits⟩ :=
      Lexeme.read_digits digits (Lexeme.number?_of_short short isLastGap.ends)
    rw [from_word isGap read, from_gap isLastGap, ← Mark.after_append]
    exact ⟨_, rfl, .last nonempty short ⟨ofDigits, rfl, by rw [Mark.after_append]⟩⟩
  · obtain ⟨window, others, rfl, full⟩ :
        ∃ window others, ds = window ++ others ∧ window.length = Lexeme.numberWindow :=
      ⟨_, _, (List.take_append_drop Lexeme.numberWindow ds).symm,
        List.length_take_of_le (Nat.le_of_not_le short)⟩
    rw [List.length_append] at short
    obtain ⟨digits, otherDigits⟩ := List.forall_mem_append.mp digits
    have positive : 0 < Lexeme.numberWindow := by decide
    obtain ⟨first, cs, rfl⟩ := List.exists_cons_of_length_pos (full ▸ positive)
    -- More digits follow, but the window ends before them.
    obtain ⟨w, read, ofDigits⟩ :=
      Lexeme.read_digits digits (Lexeme.number?_of_full full (others ++ after))
    obtain ⟨ts, following, windowed⟩ := ih others.length
      (by rw [List.length_append, List.length_cons]; omega) .nothing
      (List.ne_nil_of_length_pos (by omega)) otherDigits (m.after (gap ++ first :: cs)) rfl
    rw [List.nil_append] at following
    have cut := from_word isGap read m
    rw [following] at cut
    have same : gap ++ (first :: cs ++ others) ++ after =
        gap ++ first :: cs ++ (others ++ after) := by simp
    rw [same, cut, m.after_append (gap ++ first :: cs)]
    refine ⟨_, rfl, .more full ⟨ofDigits, rfl, by rw [Mark.after_append]⟩ ?_⟩
    rw [← Mark.after_append]
    exact windowed

/-! ## Rules of literals -/

namespace Grammar

variable {w : Lexeme} {v : Value}

theorem Literal.rank (literal : Literal w v) : w.rank = 14 := by
  cases literal <;> rfl

theorem Literal.ne_semicolon (literal : Literal w v) : w ≠ .semicolon := by
  rintro rfl
  cases literal

theorem derives_literal (literal : Literal w v) (rest : List Lexeme) :
    Derives .assignment (w :: rest) rest (.literal () v) := by
  have negation : Derives .negation (w :: rest) rest (.literal () v) :=
    .affirmed (.unrelated (.unsigned (.whole (.literal literal))))
  have relation : Derives (.operation .relation) (w :: rest) rest (.literal () v) :=
    .operand (.operand (.operand (.operand negation)))
  exact .unassigned (.unconditional (.operand (.operand (.operand relation))))

end Grammar

namespace Parser

variable {t u : Token} {v x : Value}

/-- A literal alone is a rule. -/
theorem parse_literal (literal : Literal t.lexeme v) (finish : Mark) :
    Tokens.parse ⟨[t], finish⟩ = .ok (.literal t.span v) := by
  have derived : DerivesRule (lexemes (Tokens.mk [t] finish).tokens) (.literal () v) :=
    ⟨_, .last (derives_literal literal []), rfl⟩
  obtain ⟨rule, parsed, same⟩ := parse_of_derivesRule derived
  rw [parsed]
  cases rule with
  | literal span x =>
      cases same
      obtain ⟨lexeme, written, rest, -, within⟩ := stands_of_parse parsed .root
      obtain rfl : (⟨lexeme, written, span⟩ : Token) = t :=
        List.mem_singleton.mp (within.subset List.mem_cons_self)
      rfl
  | _ => cases same

/-- A literal ends in front of another one. -/
theorem exists_outcome_literal (literal : Literal t.lexeme v) (other : Literal u.lexeme x)
    (us : List Token) (finish : Mark) :
    ∃ value last, outcome (assignment finish (t :: u :: us)) = .ok ⟨value, last, u :: us⟩ := by
  have stops : Stops 11 (lexemes (u :: us)) := by
    apply stops_cons.mpr
    rw [other.rank]
    decide
  have reads : Reads finish .assignment (t :: u :: us) (lexemes (u :: us)) (.literal () v) :=
    (completes_of_derives (derives_literal literal _)).reads stops rfl
  obtain ⟨⟨value, last, rest⟩, read, restSame, -⟩ := reads
  -- What is left are the last tokens, and of these there is only one row with its lexemes.
  have within : rest <:+ t :: u :: us := (sound .assignment _ _ read).ends.suffix
  have length : rest.length = (u :: us).length := by
    simpa [lexemes] using congrArg List.length restSame
  obtain rfl : rest = u :: us :=
    (List.suffix_of_suffix_length_le within (List.suffix_cons _ _)
      (Nat.le_of_eq length)).eq_of_length length
  exact ⟨value, last, read⟩

/-- A literal is the only statement in front of another one. -/
theorem exists_outcome_literals (literal : Literal t.lexeme v) (other : Literal u.lexeme x)
    (us : List Token) (finish : Mark) :
    ∃ values last,
      outcome (statements finish false 0 (t :: u :: us)) = .ok ⟨values, last, u :: us⟩ := by
  obtain ⟨value, last, read⟩ := exists_outcome_literal literal other us finish
  refine ⟨[value], last, ?_⟩
  rw [outcome_statements_cons 0 literal.ne_semicolon (by simp), read]
  change statementsAfter finish false _ = _
  unfold statementsAfter
  split
  · next same =>
      cases same
      exact absurd rfl other.ne_semicolon
  · rfl

/-- Nothing is expected behind a literal but the end of the rule. -/
theorem parse_literals (literal : Literal t.lexeme v) (other : Literal u.lexeme x)
    (us : List Token) (finish : Mark) :
    Tokens.parse ⟨t :: u :: us, finish⟩ =
      .error ⟨.unexpectedAtEnd u.lexeme.kindName u.shown, u.span⟩ := by
  obtain ⟨values, last, stated⟩ := exists_outcome_literals literal other us finish
  cases ran : statements finish false 0 (t :: u :: us) with
  | error f =>
      rw [ran] at stated
      cases stated
  | ok body =>
      obtain ⟨_, _, _, _⟩ := body
      rw [ran] at stated
      cases stated
      rw [Tokens.parse, ran]
      rfl

end Parser

/-! ## Rules of digits -/

namespace Windowed

variable {m : Mark} {ds : List Char} {ts : List Token}

theorem nonempty (windowed : Windowed m ds ts) : ds ≠ [] ∧ ts ≠ [] := by
  cases windowed with
  | last nonempty => exact ⟨nonempty, List.cons_ne_nil _ _⟩
  | more full =>
      have positive : 0 < Lexeme.numberWindow := by decide
      exact ⟨List.append_ne_nil_of_left_ne_nil (List.ne_nil_of_length_pos (full ▸ positive)) _,
        List.cons_ne_nil _ _⟩

theorem exists_literal (windowed : Windowed m ds ts) : ∀ t ∈ ts, ∃ v, Literal t.lexeme v := by
  induction windowed with
  | last _ _ number => exact List.forall_mem_singleton.mpr number.lexeme.literal
  | more _ number _ ih => exact List.forall_mem_cons.mpr ⟨number.lexeme.literal, ih⟩

/-- Digits that fit into the window are one number, which is a rule. -/
theorem parse_short (windowed : Windowed m ds ts) (short : ds.length ≤ Lexeme.numberWindow)
    (finish : Mark) : ∃ t v, ts = [t] ∧ t.IsNumber m ds ∧ Literal t.lexeme v ∧
      Tokens.parse ⟨ts, finish⟩ = .ok (.literal t.span v) := by
  cases windowed with
  | @last _ _ t _ _ number =>
      obtain ⟨v, literal⟩ := number.lexeme.literal
      exact ⟨t, v, rfl, number, literal, Parser.parse_literal literal finish⟩
  | more full _ others =>
      have positive := List.length_pos_iff.mpr others.nonempty.1
      rw [List.length_append] at short
      omega

/-- More digits are several numbers, and nothing is expected behind the first one. -/
theorem parse_long (windowed : Windowed m ds ts) (long : Lexeme.numberWindow < ds.length)
    (finish : Mark) : ∃ t u us, ts = t :: u :: us ∧
      t.IsNumber m (ds.take Lexeme.numberWindow) ∧ Tokens.parse ⟨ts, finish⟩ =
        .error ⟨.unexpectedAtEnd u.lexeme.kindName u.shown, u.span⟩ := by
  cases windowed with
  | last _ short => omega
  | @more _ window _ t _ full number others =>
      obtain ⟨v, literal⟩ := number.lexeme.literal
      obtain ⟨u, us, rfl⟩ := List.exists_cons_of_ne_nil others.nonempty.2
      obtain ⟨x, other⟩ := others.exists_literal u List.mem_cons_self
      refine ⟨t, u, us, rfl, ?_, Parser.parse_literals literal other us finish⟩
      rwa [← full, List.take_left]

end Windowed

/-- How digits at a place are read that are all of a rule: as one number, which is the rule, if
they fit into the window of the lexer, and else as several, which are no rule. -/
structure ReadsDigits (s : Source) (m : Mark) (ds : List Char) (ts : List Token) : Prop where
  tokens : s.tokens = .ok ⟨ts, Mark.start.after s.text.toList⟩
  windowed : Windowed m ds ts
  whole : ds.length ≤ Lexeme.numberWindow → ∃ t v, ts = [t] ∧ t.IsNumber m ds ∧
    Literal t.lexeme v ∧ s.parse = .ok (.literal t.span v)
  broken : Lexeme.numberWindow < ds.length → ∃ t u us, ts = t :: u :: us ∧
    t.IsNumber m (ds.take Lexeme.numberWindow) ∧
    s.parse = .error ⟨.unexpectedAtEnd u.lexeme.kindName u.shown, u.span⟩

namespace Source

/-- The rule of a text is read from its tokens. -/
theorem parse_of_tokens {s : Source} {ts : Tokens} (cut : s.tokens = .ok ts) :
    s.parse = ts.parse := by
  rw [parse, cut]
  rfl

/-- Digits between gaps are one number, and a rule, exactly as far as the lexer looks. -/
theorem tokens_digits {s : Source} {before ds after : List Char} (isGap : Gap before)
    (isLastGap : Gap after) (nonempty : ds ≠ []) (digits : ∀ d ∈ ds, d.isDigit = true)
    (same : s.text.toList = before ++ ds ++ after) :
    ∃ ts, ReadsDigits s (Mark.start.after before) ds ts := by
  obtain ⟨ts, cut, windowed⟩ := Tokens.from_digits isGap isLastGap nonempty digits .start
  rw [← same, ← tokens] at cut
  refine ⟨ts, cut, windowed, ?_, ?_⟩
  · intro short
    rw [parse_of_tokens cut]
    exact windowed.parse_short short _
  · intro long
    rw [parse_of_tokens cut]
    exact windowed.parse_long long _

/-- A number of more than 64 bits between a blank and a comment. -/
def large : Source :=
  ⟨"large", "\t9223372036854775808/*2^63*/"⟩

theorem tokens_digits_large :
    ∃ ts, ReadsDigits large (Mark.start.after ['\t']) "9223372036854775808".toList ts := by
  have blank : Gap ['\t'] := .blank rfl .nothing
  have comment : Gap "/*2^63*/".toList :=
    .comment (show ¬['*', '/'] <:+: ['2', '^', '6', '3'] by decide) .nothing
  have digits : "9223372036854775808".toList.all Char.isDigit = true := by decide
  exact tokens_digits blank comment (by decide) (List.all_eq_true.mp digits) (by decide)

/-- Seven, with as many zeros in front of it as fit into the window. -/
def wide : Source :=
  ⟨"wide", String.ofList (List.replicate Lexeme.numberWindow '0' ++ ['7'])⟩

/-- The digits of a number are not one token if there is one digit too many. -/
theorem wide_cut :
    (∀ d ∈ wide.text.toList, d.isDigit = true) ∧
      (∃ t u us finish, wide.tokens = .ok ⟨t :: u :: us, finish⟩) ∧
        ∀ rule, wide.parse ≠ .ok rule := by
  have text : wide.text.toList = List.replicate Lexeme.numberWindow '0' ++ ['7'] :=
    String.toList_ofList
  have digits : ∀ d ∈ wide.text.toList, d.isDigit = true := by
    rw [text]
    intro d mem
    rcases List.mem_append.mp mem with zero | seven
    · rw [List.eq_of_mem_replicate zero]
      rfl
    · rw [List.mem_singleton.mp seven]
      rfl
  have long : Lexeme.numberWindow < wide.text.toList.length := by
    rw [text, List.length_append, List.length_replicate, List.length_singleton]
    exact Nat.lt_succ_self _
  obtain ⟨ts, cut, windowed⟩ := Tokens.from_digits .nothing .nothing
    (List.ne_nil_of_length_pos (Nat.zero_lt_of_lt long)) digits .start
  rw [List.nil_append, List.append_nil, ← tokens] at cut
  obtain ⟨t, u, us, rfl, -, failed⟩ := windowed.parse_long long (Mark.start.after wide.text.toList)
  refine ⟨digits, ⟨t, u, us, _, cut⟩, ?_⟩
  intro rule parsed
  rw [parse_of_tokens cut, failed] at parsed
  cases parsed

end Source

end EditGuard.Rule
