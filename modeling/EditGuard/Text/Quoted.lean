import EditGuard.Text.Letter

/-!
# Quoted texts

Texts as diagnostics show them: quotes, backslashes, line breaks and characters
that are not visible are escaped.
-/

namespace EditGuard.Text

/-- A character by its code point in hexadecimal. -/
def codeEscape (c : Char) : List Char :=
  "\\u\x7b".toList ++ Nat.toDigits 16 c.toNat ++ ['\x7d']

/-- How a character stands in a quotation.  A character that joins the one
before it is only escaped where it could join the quotation mark. -/
def escape (escapeSingle escapeJoining : Bool) (c : Char) : List Char :=
  if c = '\x00' then ['\\', '0']
  else if c = '\t' then ['\\', 't']
  else if c = '\r' then ['\\', 'r']
  else if c = '\n' then ['\\', 'n']
  else if c = '\\' ∨ c = '"' then ['\\', c]
  else if c = '\'' ∧ escapeSingle then ['\\', c]
  else if escapeJoining && extendsGrapheme c then codeEscape c
  else if isPrintable c then [c]
  else codeEscape c

/-- A text with its escapes, of which only the first character is taken to
stand after a quotation mark. -/
def escaped (s : String) : List Char :=
  match s.toList with
  | [] => []
  | c :: cs => escape true true c ++ cs.flatMap (escape true false)

/-- A text between quotation marks. -/
def quoted (s : String) : String :=
  String.ofList ('"' :: (s.toList.flatMap (escape false true) ++ ['"']))

/-- A list of quoted texts. -/
def quotedList (texts : List String) : String :=
  "[" ++ ", ".intercalate (texts.map quoted) ++ "]"

example : quotedList ["a", "b\"c"] = "[\"a\", \"b\\\"c\"]" := by decide +kernel

end EditGuard.Text
