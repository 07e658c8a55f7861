import EditGuard.Rule.Problem
import EditGuard.Rule.Token
import EditGuard.Text.Quoted

/-!
# Cutting a rule into words

Between tokens there may be gaps of blanks and comments.  A token is read from
the head of the rest of the text as a lexeme and its length in characters, and
the lexer goes on behind it.
-/

namespace EditGuard.Rule

namespace Lexeme

/-! ## Gaps -/

/-- Characters up to and including the end of a comment, if it ends. -/
def commentLength : List Char → Option Nat
  | [] => none
  | '*' :: '/' :: _ => some 2
  | _ :: cs => (commentLength cs).map (· + 1)

/-- Characters of blanks and complete comments at the head of a text. -/
def gapLength (cs : List Char) : Nat :=
  match cs with
  | [] => 0
  | '/' :: '*' :: rest =>
      match commentLength rest with
      | some n => 2 + n + gapLength (rest.drop n)
      | none => 0
  | c :: rest => if Text.isBlank c then 1 + gapLength rest else 0
termination_by cs.length
decreasing_by all_goals simp <;> omega

/-! ## Literals -/

/-- What a problem is and how many characters of the token precede it. -/
abbrev Fault := Problem × Nat

/-- The character that an escape without a code stands for. -/
def simpleEscape? (c : Char) : Option Char :=
  if c = '\\' ∨ c = '"' ∨ c = '\'' then some c
  else if c = 'n' then some '\n'
  else if c = 'r' then some '\r'
  else if c = 't' then some '\t'
  else none

/-- The character written by two hexadecimal digits. -/
def codeEscape? (high low : Char) : Option Char := do
  let high ← Text.hexValue? high
  let low ← Text.hexValue? low
  return Char.ofNat (16 * high + low)

/-- The characters of a literal up to its closing quote, and its length when
`taken` characters come before them.  An unknown escape stands for itself. -/
def textBody (quote : Char) (taken : Nat) : List Char → Except Fault (List Char × Nat)
  | [] => .error (.unclosedString, 0)
  | c :: cs =>
      if c = quote then .ok ([], taken + 1)
      else if c = '\\' then
        match cs with
        | [] => .error (.unclosedString, 0)
        | 'x' :: high :: low :: rest =>
            match codeEscape? high low with
            | none => .error (.invalidEscape "\\x", taken)
            | some d =>
                (textBody quote (taken + 4) rest).map fun r => (d :: r.1, r.2)
        | 'x' :: _ => .error (.invalidEscape "\\x", taken)
        | e :: rest =>
            match simpleEscape? e with
            | some d => (textBody quote (taken + 2) rest).map fun r => (d :: r.1, r.2)
            | none =>
                (textBody quote (taken + 2) rest).map fun r => ('\\' :: e :: r.1, r.2)
      else (textBody quote (taken + 1) cs).map fun r => (c :: r.1, r.2)

/-- How far a number is looked for. -/
def numberWindow : Nat := 512

/-- The base that a letter after a number gives it. -/
def radixOf (c : Option Char) : Nat :=
  if c = some 'b' then 2
  else if c = some 'o' then 8
  else if c = some 'x' then 16
  else 10

/-- A whole number of a base, in floating point where it needs more than 64
bits. -/
def wholeNumber? (base : Nat) (body : List Char) : Option Lexeme :=
  match Text.digitValues? base body with
  | none => none
  | some values =>
      let exact := Text.ofDigitValues base values
      if Number.Fits exact then some (int (Int64.ofInt exact))
      else
        some (float (values.foldl
          (fun (x : Float) d => x * Float.ofNat base + Float.ofNat d) 0))

/-- A number with a decimal point. -/
def fraction? (whole fraction : List Char) : Option Lexeme :=
  if whole.all Char.isDigit then
    some (float (Decimal.ofDecimal (Decimal.naturalOf (whole ++ fraction))
      (-(fraction.length : Int))))
  else none

/-- The digits after a decimal point, if the point belongs to a number. -/
def fractionDigits? (whole : List Char) : List Char → Option (List Char)
  | '.' :: cs =>
      let digits := cs.takeWhile Char.isDigit
      if whole.isEmpty && digits.isEmpty then none else some digits
  | _ => none

/-- A number at the head of a text and its length.  Digits may be hexadecimal;
a letter after them gives the base, and `b`, which is such a digit too, does so
as the last one of several.  A number is not followed by a lower case letter. -/
def number? (cs : List Char) : Option (Lexeme × Nat) :=
  let window := cs.take numberWindow
  let whole := window.takeWhile Text.isHexDigit
  let rest := window.drop whole.length
  let digits? := fractionDigits? whole rest
  let bodyLength := whole.length + (digits?.map fun ds => ds.length + 1).getD 0
  let suffix := window[bodyLength]?
  let base := radixOf suffix
  let length := if base = 10 then bodyLength else bodyLength + 1
  if bodyLength = 0 then none
  else if (window[length]?.map Char.isLower).getD false then none
  else
    match digits? with
    | some digits => if base = 10 then (fraction? whole digits).map (·, length) else none
    | none =>
        if base = 10 ∧ 1 < whole.length ∧ whole.getLast? = some 'b' then
          (wholeNumber? 2 whole.dropLast).map (·, length)
        else (wholeNumber? base whole).map (·, length)

/-! ## Tokens -/

/-- Whether a character may stand in a name. -/
def isNameChar (c : Char) : Bool :=
  c.isAlphanum || c == '_'

/-- The keyword or name that a word spells. -/
def ofWord (word : List Char) : Lexeme :=
  let lower := String.ofList (word.map Char.toLower)
  match Keyword.ofWord? lower with
  | some k => keyword k
  | none => name lower

/-- A lexeme at the head of a text that is neither a number nor in quotes. -/
def wordOrSign (cs : List Char) : Except Fault (Lexeme × Nat) :=
  let word := cs.takeWhile isNameChar
  if word.isEmpty then
    match Operator.atHead? cs with
    | some op => .ok (operator op, op.symbol.length)
    | none => .error (.unrecognisedToken (String.ofList (cs.take 1)), 0)
  else .ok (ofWord word, word.length)

/-- The lexeme that begins with a character, and its length. -/
def read (first : Char) (cs : List Char) : Except Fault (Lexeme × Nat) :=
  if first = '/' ∧ cs.head? = some '*' then .error (.unclosedComment, 0)
  else if first = '(' then .ok (leftParen, 1)
  else if first = ')' then .ok (rightParen, 1)
  else if first = '[' then .ok (leftBracket, 1)
  else if first = ']' then .ok (rightBracket, 1)
  else if first = ',' then .ok (comma, 1)
  else if first = ';' then .ok (semicolon, 1)
  else if first = '"' ∨ first = '\'' then
    (textBody first 1 cs).map fun r => (text (String.ofList r.1), r.2)
  else if Text.isHexDigit first ∨ first = '.' then
    match number? (first :: cs) with
    | some r => .ok r
    | none => wordOrSign (first :: cs)
  else wordOrSign (first :: cs)

end Lexeme

/-- The tokens of a text that begins at a place. -/
def Tokens.from (m : Mark) (cs : List Char) : Except Finding Tokens :=
  let gap := Lexeme.gapLength cs
  let start := m.after (cs.take gap)
  match _rest : cs.drop gap with
  | [] => .ok ⟨[], start⟩
  | first :: more =>
      match Lexeme.read first more with
      | .error (problem, before) =>
          .error ⟨problem, Span.empty (start.after ((first :: more).take before))⟩
      | .ok (lexeme, length) =>
          let written := first :: more.take (length - 1)
          let stop := start.after written
          let token : Token :=
            ⟨lexeme, String.ofList written, ⟨start, stop.offset⟩⟩
          match Tokens.from stop (more.drop (length - 1)) with
          | .error finding => .error finding
          | .ok following => .ok ⟨token :: following.tokens, following.finish⟩
termination_by cs.length
decreasing_by
  have shorter := congrArg List.length _rest
  simp only [List.length_drop, List.length_cons] at shorter ⊢
  omega

/-- The tokens of a rule. -/
def Source.tokens (s : Source) : Except Finding Tokens :=
  Tokens.from Mark.start s.text.toList

/-- The text that a stretch of the rule covers. -/
def Source.slice (s : Source) (span : Span) : String :=
  let bytes := s.text.toUTF8
  (String.fromUTF8? (bytes.extract span.start.offset span.stop)).getD ""

/-- How many characters of its text a described stretch shows. -/
def Span.shownLength : Nat := 32

/-- A stretch of the rule by its place and the beginning of its text. -/
def Source.describe (s : Source) (span : Span) : String :=
  let text := Text.escaped (s.slice span)
  let shown := String.ofList (text.take Span.shownLength)
  let trailer := if Span.shownLength < text.length then "..." else ""
  s!"{span.start.line}:{span.start.column}:{span.start.offset}:{span.stop}, " ++
    "\"" ++ shown ++ trailer ++ "\""

end EditGuard.Rule
