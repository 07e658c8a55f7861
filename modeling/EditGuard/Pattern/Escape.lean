import EditGuard.Decimal.Reading
import EditGuard.Pattern.Node
import EditGuard.Pattern.Property

/-!
# Escapes in patterns

What can be wrong with a pattern, the flags that hold at its places, and the
reading of single places: numbers, codes, named classes, and what follows a
backslash.
-/

namespace EditGuard.Pattern

/-- What is wrong with a pattern. -/
inductive PatternError where
  | unclosedGroup
  | unopenedGroup
  | lookAround
  | badGroupName
  | duplicateGroupName
  | badFlags
  | nothingToRepeat
  | badRepetition
  | unclosedClass
  | badClassRange
  | badClassEscape
  | badEscape
  | backreference
  | badCode
  | unknownProperty
  | notUnicode
  | nestedTooDeep
  | tooLarge
deriving Repr, DecidableEq, Inhabited

namespace PatternError

/-- What is wrong, in words. -/
def explanation : PatternError → String
  | unclosedGroup => "unclosed group"
  | unopenedGroup => "unopened group"
  | lookAround => "look-around is not supported"
  | badGroupName => "invalid capture group name"
  | duplicateGroupName => "duplicate capture group name"
  | badFlags => "invalid flags"
  | nothingToRepeat => "repetition operator missing expression"
  | badRepetition => "invalid repetition count"
  | unclosedClass => "unclosed character class"
  | badClassRange => "invalid character class range"
  | badClassEscape => "invalid escape sequence in a character class"
  | badEscape => "unrecognized escape sequence"
  | backreference => "backreferences are not supported"
  | badCode => "invalid hexadecimal character code"
  | unknownProperty => "Unicode property not found"
  | notUnicode => "pattern can match invalid text"
  | nestedTooDeep => "pattern is nested too deeply"
  | tooLarge => "compiled pattern is too large"

end PatternError

/-- The flags that hold at a place of a pattern. -/
structure Flags where
  insensitive : Bool
  multiline : Bool
  dotMatchesNewline : Bool
  swapGreed : Bool
  unicode : Bool
  crlf : Bool
  ignoreSpace : Bool
deriving Repr, DecidableEq, Inhabited

namespace Reader

/-- What is read, most often with the rest of the text, or what is wrong. -/
abbrev Reading := Except PatternError

/-! ## Blanks and numbers -/

/-- Drop blanks and comments, which go from `#` to the end of the line. -/
def dropIgnored (inComment : Bool) : List Char → List Char
  | [] => []
  | c :: cs =>
      if inComment then dropIgnored (c != '\n') cs
      else if Text.isBlank c then dropIgnored false cs
      else if c = '#' then dropIgnored true cs
      else c :: cs

/-- Drop what does not count before the next character. -/
def skip (flags : Flags) (cs : List Char) : List Char :=
  if flags.ignoreSpace then dropIgnored false cs else cs

/-- Nothing is read twice. -/
theorem length_dropIgnored_le (inComment : Bool) (cs : List Char) :
    (dropIgnored inComment cs).length ≤ cs.length := by
  induction cs generalizing inComment with
  | nil => simp [dropIgnored]
  | cons c cs ih =>
      unfold dropIgnored
      split
      · exact Nat.le_succ_of_le (ih _)
      · split
        · exact Nat.le_succ_of_le (ih _)
        · split
          · exact Nat.le_succ_of_le (ih _)
          · exact Nat.le_refl _

theorem length_skip_le (flags : Flags) (cs : List Char) :
    (skip flags cs).length ≤ cs.length := by
  unfold skip
  split
  · exact length_dropIgnored_le _ _
  · exact Nat.le_refl _

/-- Decimal digits, between which ignored characters may stand. -/
def decimalDigits (flags : Flags) (cs : List Char) : List Char × List Char :=
  match cs with
  | [] => ([], [])
  | c :: rest =>
      if c.isDigit then
        let more := decimalDigits flags (skip flags rest)
        (c :: more.1, more.2)
      else ([], cs)
termination_by cs.length
decreasing_by
  have := length_skip_le flags rest
  simp only [List.length_cons]
  omega

/-- A decimal number of at most 32 bits with blanks around it; none without
digits. -/
def decimal? (flags : Flags) (cs : List Char) : Reading ((Option Nat) × List Char) :=
  let (digits, rest) := decimalDigits flags (cs.dropWhile Text.isBlank)
  let rest := rest.dropWhile Text.isBlank
  if digits.isEmpty then .ok (none, rest)
  else
    let n := Decimal.naturalOf digits
    if n ≤ 0xffffffff then .ok (some n, rest) else .error .badRepetition

/-- The character with a code. -/
def charOfCode? (n : Nat) : Option Char :=
  if n.isValidChar then some (Char.ofNat n) else none

/-- A fixed number of hexadecimal digits. -/
def hexDigits (flags : Flags) : Nat → List Char → Reading (List Nat × List Char)
  | 0, cs => .ok ([], cs)
  | count + 1, cs =>
      match cs with
      | [] => .error .badEscape
      | c :: rest =>
          match Text.hexValue? c with
          | none => .error .badCode
          | some d => do
              let (ds, rest) ← hexDigits flags count (skip flags rest)
              return (d :: ds, rest)

/-- Hexadecimal digits up to a closing brace. -/
def hexUntilBrace (flags : Flags) (cs : List Char) :
    Reading (List Nat × List Char) :=
  match cs with
  | [] => .error .badEscape
  | c :: rest =>
      if c = '\x7d' then .ok ([], skip flags rest)
      else
        match Text.hexValue? c with
        | none => .error .badCode
        | some d =>
            (hexUntilBrace flags (skip flags rest)).map fun r => (d :: r.1, r.2)
termination_by cs.length
decreasing_by
  have := length_skip_le flags rest
  simp only [List.length_cons]
  omega

/-- The character with a hexadecimal code, after the letter that asks for a
number of digits. -/
def codePoint (flags : Flags) (count : Nat) (cs : List Char) : Reading (Char × List Char) := do
  let (digits, rest) ←
    match skip flags cs with
    | [] => .error .badEscape
    | '\x7b' :: rest => hexUntilBrace flags (skip flags rest)
    | cs => hexDigits flags count cs
  if digits.isEmpty then throw .badCode
  match charOfCode? (Text.ofDigitValues 16 digits) with
  | some c => return (c, rest)
  | none => throw .badCode

/-! ## Sets -/

/-- Fold and negate a set of a class.  Sets of bytes must not go beyond ASCII. -/
def finishSet (flags : Flags) (negated : Bool) (s : CharSet) : Reading CharSet :=
  let folded :=
    if !flags.insensitive then s
    else if flags.unicode then .folded s
    else .asciiFolded s
  let result := if negated then .compl folded else folded
  if !flags.unicode && !result.isAsciiOnly then .error .notUnicode else .ok result

/-- Decimal digits, blanks and word characters within ASCII. -/
def asciiClass : Char → CharSet
  | 'd' => .range 0x30 0x39
  | 's' => .runs [⟨9, 13, 1⟩, ⟨0x20, 0x20, 1⟩]
  | _ => .runs [⟨0x30, 0x39, 1⟩, ⟨0x41, 0x5A, 1⟩, ⟨0x5F, 0x5F, 1⟩, ⟨0x61, 0x7A, 1⟩]

/-- The class that a letter after a backslash stands for; a capital letter
stands for the complement. -/
def letterClass (flags : Flags) (letter : Char) : Reading CharSet :=
  let small := letter.toLower
  let s :=
    if !flags.unicode then asciiClass small
    else if small = 'd' then .digit
    else if small = 's' then .space
    else .word
  let result := if letter.isUpper then .compl s else s
  if !flags.unicode && !result.isAsciiOnly then .error .notUnicode else .ok result

/-- The named classes of ASCII characters. -/
def namedAsciiClass? (name : List Char) : Option CharSet :=
  match String.ofList name with
  | "alnum" => some (.runs [⟨0x30, 0x39, 1⟩, ⟨0x41, 0x5A, 1⟩, ⟨0x61, 0x7A, 1⟩])
  | "alpha" => some (.runs [⟨0x41, 0x5A, 1⟩, ⟨0x61, 0x7A, 1⟩])
  | "ascii" => some (.range 0 0x7F)
  | "blank" => some (.runs [⟨9, 9, 1⟩, ⟨0x20, 0x20, 1⟩])
  | "cntrl" => some (.runs [⟨0, 0x1F, 1⟩, ⟨0x7F, 0x7F, 1⟩])
  | "digit" => some (asciiClass 'd')
  | "graph" => some (.range 0x21 0x7E)
  | "lower" => some (.range 0x61 0x7A)
  | "print" => some (.range 0x20 0x7E)
  | "punct" =>
      some (.runs [⟨0x21, 0x2F, 1⟩, ⟨0x3A, 0x40, 1⟩, ⟨0x5B, 0x60, 1⟩, ⟨0x7B, 0x7E, 1⟩])
  | "space" => some (asciiClass 's')
  | "upper" => some (.range 0x41 0x5A)
  | "word" => some (asciiClass 'w')
  | "xdigit" => some (.runs [⟨0x30, 0x39, 1⟩, ⟨0x41, 0x46, 1⟩, ⟨0x61, 0x66, 1⟩])
  | _ => none

/-- A named class in brackets and colons, whether it is negated, and the rest. -/
def namedClass? : List Char → Option ((CharSet × Bool) × List Char)
  | '[' :: ':' :: cs =>
      let (negated, cs) :=
        match cs with
        | '^' :: rest => (true, rest)
        | _ => (false, cs)
      let (name, rest) := cs.span (· != ':')
      match rest with
      | ':' :: ']' :: rest => (namedAsciiClass? name).map fun s => ((s, negated), rest)
      | _ => none
  | _ => none

/-- Cut a text at the first occurrence of a mark. -/
def cutAt? (mark : List Char) : List Char → Option (List Char × List Char)
  | [] => none
  | c :: cs =>
      if mark.isPrefixOf (c :: cs) then some ([], (c :: cs).drop mark.length)
      else (cutAt? mark cs).map fun r => (c :: r.1, r.2)

/-- Whether the property that is named in braces is to be negated, and its set. -/
def bracedProperty? (name : List Char) : Option (Bool × CharSet) :=
  match cutAt? ['!', '='] name with
  | some (property, value) => (valueSet? property value).map (true, ·)
  | none =>
      match cutAt? [':'] name <|> cutAt? ['='] name with
      | some (property, value) => (valueSet? property value).map (false, ·)
      | none => (propertySet? name).map (false, ·)

/-- The text up to a closing brace, without ignored characters. -/
def untilBrace (flags : Flags) (cs : List Char) : Reading ((List Char) × List Char) :=
  match cs with
  | [] => .error .badEscape
  | c :: rest =>
      if c = '\x7d' then .ok ([], rest)
      else (untilBrace flags (skip flags rest)).map fun r => (c :: r.1, r.2)
termination_by cs.length
decreasing_by
  have := length_skip_le flags rest
  simp only [List.length_cons]
  omega

/-- The class of a Unicode property, after the letter that asks for it. -/
def propertyClass (flags : Flags) (negated : Bool) (cs : List Char) : Reading (CharSet × List Char) := do
  let ((opposite, s), rest) ←
    match skip flags cs with
    | [] => .error .badEscape
    | '\x7b' :: rest => do
        let (name, rest) ← untilBrace flags (skip flags rest)
        match bracedProperty? name with
        | some found => .ok (found, rest)
        | none => .error .unknownProperty
    | c :: rest =>
        if c = '\\' then .error .badEscape
        else
          match propertySet? [c] with
          | some s => .ok ((false, s), skip flags rest)
          | none => .error .unknownProperty
  if !flags.unicode then throw .notUnicode
  return (← finishSet flags (negated != opposite) s, rest)

/-! ## Escapes -/

/-- What stands for one place of a pattern. -/
inductive Atom where
  /-- A character, and whether it is written as the code of a byte. -/
  | literal (c : Char) (byteCode : Bool)
  | set (s : CharSet)
  | look (l : Look)
  | dot
deriving Repr, DecidableEq, Inhabited

/-- The characters that have a meaning in patterns. -/
def isMeta (c : Char) : Bool :=
  "\\.+*?()|[]\x7b\x7d^$#&-~".toList.contains c

/-- The ASCII characters that may be escaped although they stand for themselves. -/
def isEscapable (c : Char) : Bool :=
  isMeta c || (c.toNat < 0x80 && !c.isAlphanum && c != '<' && c != '>')

/-- The control character that an escape stands for. -/
def controlEscape? : Char → Option Char
  | 'a' => some '\x07'
  | 'f' => some '\x0c'
  | 't' => some '\t'
  | 'n' => some '\n'
  | 'r' => some '\r'
  | 'v' => some '\x0b'
  | _ => none

/-- Letters and hyphens, which name kinds of word boundaries. -/
def isBoundaryNameChar (c : Char) : Bool :=
  c.isAlpha || c == '-'

/-- The name of a kind of word boundary up to its closing brace. -/
def boundaryName (flags : Flags) (cs : List Char) : Reading ((List Char) × List Char) :=
  match cs with
  | [] => .error .badEscape
  | c :: rest =>
      if c = '\x7d' then .ok ([], rest)
      else if isBoundaryNameChar c then
        (boundaryName flags (skip flags rest)).map fun r => (c :: r.1, r.2)
      else .error .badEscape
termination_by cs.length
decreasing_by
  have := length_skip_le flags rest
  simp only [List.length_cons]
  omega

/-- A word boundary, whose kind may follow in braces.  What begins with another
character there is a repetition. -/
def boundary (flags : Flags) (cs : List Char) : Reading (Look × List Char) :=
  let ascii := !flags.unicode
  match cs with
  | '\x7b' :: rest =>
      match skip flags rest with
      | [] => .error .badEscape
      | c :: more =>
          if isBoundaryNameChar c then do
            let (name, rest) ← boundaryName flags (c :: more)
            match String.ofList name with
            | "start" => return (.wordStart ascii, rest)
            | "end" => return (.wordStop ascii, rest)
            | "start-half" => return (.wordStartHalf ascii, rest)
            | "end-half" => return (.wordStopHalf ascii, rest)
            | _ => throw .badEscape
          else .ok (.wordBoundary ascii, cs)
  | _ => .ok (.wordBoundary ascii, cs)

/-- What follows a backslash. -/
def escape (flags : Flags) (cs : List Char) : Reading (Atom × List Char) :=
  let ascii := !flags.unicode
  match cs with
  | [] => .error .badEscape
  | c :: rest =>
      if c.isDigit then .error .backreference
      else if c = 'x' then (codePoint flags 2 rest).map fun r =>
        (.literal r.1 (((skip flags rest).head? != some '\x7b') && r.1.toNat < 0x100), r.2)
      else if c = 'u' then (codePoint flags 4 rest).map fun r => (.literal r.1 false, r.2)
      else if c = 'U' then (codePoint flags 8 rest).map fun r => (.literal r.1 false, r.2)
      else if c = 'p' ∨ c = 'P' then
        (propertyClass flags (c == 'P') rest).map fun r => (.set r.1, r.2)
      else if "dswDSW".toList.contains c then do
        return (.set (← letterClass flags c), rest)
      else if isEscapable c then .ok (.literal c false, rest)
      else
        match controlEscape? c with
        | some d => .ok (.literal d false, rest)
        | none =>
            match c with
            | 'A' => .ok (.look .start, rest)
            | 'z' => .ok (.look .stop, rest)
            | 'b' => (boundary flags rest).map fun r => (.look r.1, r.2)
            | 'B' => .ok (.look (.notWordBoundary ascii), rest)
            | '<' => .ok (.look (.wordStart ascii), rest)
            | '>' => .ok (.look (.wordStop ascii), rest)
            | _ => .error .badEscape

end Reader

end EditGuard.Pattern
