import EditGuard.Number

/-!
# JSON documents

The tree of a JSON text.  Numbers keep the distinction between integers, which
a reader takes exactly up to 64 bits, and other numbers.  Members of an object
keep their order, and a name may occur more than once.
-/

namespace EditGuard

/-- A JSON document. -/
inductive Json where
  | null
  | bool (b : Bool)
  | integer (n : Int)
  | float (x : Float)
  | string (s : String)
  | array (items : List Json)
  | object (members : List (String × Json))
deriving Inhabited

namespace Json

/-- JSON numbers are positional up to sixteen digits before the point and five
zeros after it, and a whole number keeps a fraction to show that it is no
integer. -/
def layout : Decimal.Layout :=
  { tie := .even
    least := -5
    greatest := 16
    pointAfterWhole := true
    pointBeforeExponent := false
    exponentMark := "e+"
    negativeExponentMark := "e-"
    signedZero := true
    notNumber := "null"
    infinity := "null" }

/-- The text of a number that is no integer.  JSON has no infinities. -/
def floatText (x : Float) : String :=
  if x.isInf then layout.infinity else layout.write x

/-- A hexadecimal digit in lower case. -/
def hexDigit (n : Nat) : Char :=
  Nat.digitChar n

/-- How a character stands in a string: quotes, backslashes and control
characters are escaped and all else is literal. -/
def escape (c : Char) : List Char :=
  if c = '"' then ['\\', '"']
  else if c = '\\' then ['\\', '\\']
  else if c = '\x08' then ['\\', 'b']
  else if c = '\x0c' then ['\\', 'f']
  else if c = '\n' then ['\\', 'n']
  else if c = '\r' then ['\\', 'r']
  else if c = '\t' then ['\\', 't']
  else if c.toNat < 0x20 then
    ['\\', 'u', '0', '0', hexDigit (c.toNat / 16), hexDigit (c.toNat % 16)]
  else [c]

/-- A string with its quotes. -/
def quoted (s : String) : List Char :=
  '"' :: (s.toList.flatMap escape ++ ['"'])

mutual

/-- A document without blanks. -/
def compactChars : Json → List Char
  | null => "null".toList
  | bool b => (if b then "true" else "false").toList
  | integer n => (toString n).toList
  | float x => (floatText x).toList
  | string s => quoted s
  | array items => '[' :: (compactItems items ++ [']'])
  | object members => '\x7b' :: (compactMembers members ++ ['\x7d'])

/-- Items with commas between them. -/
def compactItems : List Json → List Char
  | [] => []
  | [item] => compactChars item
  | item :: items => compactChars item ++ ',' :: compactItems items

/-- Members with commas between them. -/
def compactMembers : List (String × Json) → List Char
  | [] => []
  | [(name, value)] => quoted name ++ ':' :: compactChars value
  | (name, value) :: members =>
      quoted name ++ ':' :: (compactChars value ++ ',' :: compactMembers members)

end

/-- A document in one line without blanks. -/
def compact (j : Json) : String :=
  String.ofList (compactChars j)

/-- The start of a line at a depth of nesting. -/
def lineStart (depth : Nat) : List Char :=
  '\n' :: List.replicate (2 * depth) ' '

mutual

/-- A document with one item in a line. -/
def indentedChars (depth : Nat) : Json → List Char
  | array (item :: items) =>
      '[' :: (indentedItems (depth + 1) (item :: items) ++ lineStart depth ++ [']'])
  | object (member :: members) =>
      '\x7b' :: (indentedMembers (depth + 1) (member :: members) ++
        lineStart depth ++ ['\x7d'])
  | other => compactChars other

/-- Items in lines of their own. -/
def indentedItems (depth : Nat) : List Json → List Char
  | [] => []
  | [item] => lineStart depth ++ indentedChars depth item
  | item :: items =>
      lineStart depth ++ (indentedChars depth item ++ ',' :: indentedItems depth items)

/-- Members in lines of their own. -/
def indentedMembers (depth : Nat) : List (String × Json) → List Char
  | [] => []
  | [(name, value)] =>
      lineStart depth ++ (quoted name ++ ':' :: ' ' :: indentedChars depth value)
  | (name, value) :: members =>
      lineStart depth ++ (quoted name ++ ':' :: ' ' ::
        (indentedChars depth value ++ ',' :: indentedMembers depth members))

end

/-- A document with one item in a line, indented by two blanks a level. -/
def indented (j : Json) : String :=
  String.ofList (indentedChars 0 j)

end Json

end EditGuard
