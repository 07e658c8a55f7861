import EditGuard.Message
import EditGuard.Rule.Source

/-!
# Problems in rules

What can be wrong with a rule, found while its text is read, while it is
checked, or while it runs; and what may be doubtful about it.  Each problem has
a message, and is shown under the line in which it stands.
-/

namespace EditGuard.Rule

/-- What is wrong with a rule. -/
inductive Problem where
  | unclosedString
  | unclosedComment
  | unrecognisedToken (text : String)
  | invalidEscape (text : String)
  | unexpectedToken (kind text : String)
  | expectedNotFound (kind text foundKind foundText : String)
  | unexpectedAtEnd (kind text : String)
  | unrecognisedKeyword (word : String)
  | unrecognisedVariable (name : String)
  | disabledVariable (name : String)
  | overridesBuiltin (name : String)
  /-- The first argument of a setter has to be a literal text. -/
  | nameNotLiteral
  | unknownFunction (name : String)
  | noArguments (function : String)
  | notEnoughArguments (function : String) (least given : Nat)
  | tooManyArguments (function : String) (most given : Nat)
  | divisionByZero (dividend : String)
  | listInArithmetic
  | notList
  | negativeIndex (index : Int)
  | indexOutOfBounds (index : Int) (length : Nat)
  | badPattern (explanation pattern : String)
  | badAddressRange (text : String)
deriving Repr, DecidableEq, Inhabited

namespace Problem

/-- The message of a problem. -/
def message : Problem → Message
  | unclosedString => ⟨"unclosedstring", []⟩
  | unclosedComment => ⟨"unclosedcomment", []⟩
  | unrecognisedToken text => ⟨"unrecognisedtoken", [text]⟩
  | invalidEscape text => ⟨"invalidescape", [text]⟩
  | unexpectedToken kind text => ⟨"unexpectedtoken", [kind, text]⟩
  | expectedNotFound kind text foundKind foundText =>
      ⟨"expectednotfound", [kind, text, foundKind, foundText]⟩
  | unexpectedAtEnd kind text => ⟨"unexpectedatend", [kind, text]⟩
  | unrecognisedKeyword word => ⟨"unrecognisedkeyword", [word]⟩
  | unrecognisedVariable name => ⟨"unrecognisedvar", [name]⟩
  | disabledVariable name => ⟨"disabledvar", [name]⟩
  | overridesBuiltin name => ⟨"overridebuiltin", [name]⟩
  | nameNotLiteral => ⟨"variablevariable", []⟩
  | unknownFunction name => ⟨"unknownfunction", [name]⟩
  | noArguments function => ⟨"noparams", [function]⟩
  | notEnoughArguments function least given =>
      ⟨"notenoughargs", [function, toString least, toString given]⟩
  | tooManyArguments function most given =>
      ⟨"toomanyargs", [function, toString most, toString given]⟩
  | divisionByZero dividend => ⟨"dividebyzero", [dividend]⟩
  | listInArithmetic => ⟨"arrayinarithmetic", []⟩
  | notList => ⟨"notarray", []⟩
  | negativeIndex index => ⟨"negativeindex", [toString index]⟩
  | indexOutOfBounds index length => ⟨"outofbounds", [toString index, toString length]⟩
  | badPattern explanation pattern => ⟨"regexfailure", [explanation, pattern]⟩
  | badAddressRange text => ⟨"invalidiprange", [text]⟩

end Problem

/-- A problem and the stretch of the rule that has it. -/
structure Finding where
  problem : Problem
  span : Span
deriving Repr, DecidableEq, Inhabited

namespace Finding

/-- Characters of the rule before the problem. -/
def position (f : Finding) : Nat :=
  f.span.start.index

/-- The message of a problem over a quotation of its line. -/
def report (f : Finding) (source : Source) : String :=
  f.problem.message.text ++ source.quote f.span

end Finding

/-- What may be doubtful about a rule that is otherwise correct. -/
inductive Doubt where
  | matchesEmpty (pattern : String)
  | unusedVariable (name : String)
  | deprecatedVariable (name replacement : String)
deriving Repr, DecidableEq, Inhabited

namespace Doubt

/-- The message of a doubt. -/
def message : Doubt → Message
  | matchesEmpty pattern => ⟨"match-empty-regex", [pattern]⟩
  | unusedVariable name => ⟨"unused-variable", [name]⟩
  | deprecatedVariable name replacement => ⟨"deprecated-variable", [name, replacement]⟩

end Doubt

/-- A doubt and the number of characters of the rule before its place. -/
structure Warning where
  doubt : Doubt
  position : Nat
deriving Repr, DecidableEq, Inhabited

/-- A message with its place, counted from one. -/
def noteAt (message : Message) (position : Nat) : String :=
  s!"{message.text} (at character {position + 1})"

/-- The wording of a warning. -/
def Warning.text (w : Warning) : String :=
  noteAt w.doubt.message w.position

end EditGuard.Rule
