/-!
# Messages for rule authors

A message is an identifier with texts that fill its places.  `Message.text` is
its English wording.
-/

namespace EditGuard

/-- A message to the author of a rule. -/
structure Message where
  id : String
  params : List String
deriving Repr, DecidableEq, Inhabited

namespace Message

/-- The text for a place, empty when there is none. -/
def param (m : Message) (place : Nat) : String :=
  m.params.getD place ""

/-- The English wording.  A message that has none of its own is its identifier
and its texts. -/
def text (m : Message) : String :=
  let p := m.param
  match m.id with
  | "unexpectedtoken" => s!"Unexpected token \"{p 1}\" (of type {p 0})"
  | "unclosedstring" => "Unclosed string"
  | "unclosedcomment" => "Unclosed comment"
  | "unrecognisedtoken" => s!"Unrecognised token \"{p 0}\""
  | "invalidescape" => s!"Invalid escape sequence \"{p 0}\""
  | "expectednotfound" => s!"Expected a {p 0} {p 1}, but found {p 2} \"{p 3}\""
  | "unexpectedatend" => s!"Unexpected \"{p 0}\" at end of input"
  | "unrecognisedkeyword" => s!"Unrecognised keyword \"{p 0}\""
  | "unrecognisedvar" => s!"Unrecognised variable \"{p 0}\""
  | "disabledvar" => s!"The variable \"{p 0}\" is no longer available"
  | "overridebuiltin" => s!"Cannot overwrite the builtin variable \"{p 0}\""
  | "variablevariable" =>
      "The first argument of set and set_var must be a string literal"
  | "unknownfunction" => s!"Unknown function \"{p 0}\""
  | "noparams" => s!"Function \"{p 0}\" requires arguments"
  | "notenoughargs" =>
      s!"Not enough arguments to function \"{p 0}\": expected {p 1}, got {p 2}"
  | "toomanyargs" =>
      s!"Too many arguments to function \"{p 0}\": expected at most {p 1}, got {p 2}"
  | "dividebyzero" => s!"Illegal attempt to divide {p 0} by zero"
  | "arrayinarithmetic" => "An array cannot be used in an arithmetic context"
  | "notarray" => "Requested array index of a value that is not an array"
  | "negativeindex" => s!"Negative array index {p 0}"
  | "outofbounds" => s!"Requested index {p 0} of an array with {p 1} elements"
  | "regexfailure" => s!"Error in regular expression \"{p 1}\": {p 0}"
  | "invalidiprange" => s!"Invalid IP range \"{p 0}\""
  | "match-empty-regex" => "This regular expression matches the empty string"
  | "unused-variable" => s!"The variable \"{p 0}\" is assigned but never used"
  | "deprecated-variable" =>
      s!"The variable \"{p 0}\" is deprecated, use \"{p 1}\" instead"
  | other => other ++ " " ++ ", ".intercalate m.params

end Message

end EditGuard
