import EditGuard.Number.Numeral
import EditGuard.Json.Reader

/-!
# Values of the rule language

A value is undefined, null, a truth value, a number, a text, or a list.  What
could not be computed is `undefined`, which most operators pass on.  This file
holds the conversions of values to truth values, texts, numbers and JSON
documents, and the reading of values from JSON.
-/

namespace EditGuard

/-- A value of the rule language. -/
inductive Value where
  | undefined
  | null
  | bool (b : Bool)
  | int (n : Int64)
  | float (x : Float)
  | text (s : String)
  | list (items : List Value)
deriving Inhabited

namespace Value

def isUndefined : Value → Bool
  | undefined => true
  | _ => false

def isNull : Value → Bool
  | null => true
  | _ => false

/-- The name of the kind of a value. -/
def kindName : Value → String
  | undefined => "undefined"
  | null => "null"
  | bool _ => "bool"
  | int _ => "int"
  | float _ => "float"
  | text _ => "string"
  | list _ => "array"

def ofNumber : Number → Value
  | .int n => int n
  | .float x => float x

/-- A count as a value. -/
def ofNat (n : Nat) : Value :=
  ofNumber (Number.exactOr n (Float.ofNat n))

/-- A list of texts. -/
def ofTexts (texts : List String) : Value :=
  list (texts.map text)

/-! ## Conversions -/

/-- Whether a value counts as true.  The empty text, the text `0`, zero and the
empty list do not. -/
def toBool : Value → Bool
  | undefined | null => false
  | bool b => b
  | int n => n != 0
  | float x => x != 0
  | text s => !(s.isEmpty || s == "0")
  | list items => !items.isEmpty

mutual

/-- The text of a value.  Each item of a list ends its line. -/
def toText : Value → String
  | undefined | null => ""
  | bool b => if b then "1" else ""
  | int n => toString n.toInt
  | float x => Number.layout.write x
  | text s => s
  | list items => itemsToText items

def itemsToText : List Value → String
  | [] => ""
  | item :: items => item.toText ++ "\n" ++ itemsToText items

end

/-- The number of a value.  A list counts its items. -/
def toNumber : Value → Number
  | undefined | null => .int 0
  | bool b => .int (if b then 1 else 0)
  | int n => .int n
  | float x => .float x
  | text s => .ofTextPrefix s
  | list items => .int (Int64.ofNat items.length)

/-- The number of a value in arithmetic, where lists have none. -/
def toOperand? : Value → Option Number
  | list _ => none
  | v => some v.toNumber

def toInt (v : Value) : Int64 :=
  v.toNumber.toInt

def toFloat (v : Value) : Float :=
  v.toNumber.toFloat

/-! ## JSON -/

mutual

/-- The document of a value.  What is undefined and what is no finite number is
null. -/
def toJson : Value → Json
  | undefined | null => .null
  | bool b => .bool b
  | int n => .integer n.toInt
  | float x => if x.isFinite then .float x else .null
  | text s => .string s
  | list items => .array (itemsToJson items)

def itemsToJson : List Value → List Json
  | [] => []
  | item :: items => item.toJson :: itemsToJson items

end

mutual

/-- The value of a document.  An object becomes the list of its members' values,
and an integer beyond 64 bits a floating point number. -/
def ofJson : Json → Value
  | .null => null
  | .bool b => bool b
  | .integer n => ofNumber (Number.exactOr n (Float.ofInt n))
  | .float x => float x
  | .string s => text s
  | .array items => list (itemsOfJson items)
  | .object members => list (membersOfJson members)

def itemsOfJson : List Json → List Value
  | [] => []
  | item :: items => ofJson item :: itemsOfJson items

def membersOfJson : List (String × Json) → List Value
  | [] => []
  | (_, value) :: members => ofJson value :: membersOfJson members

end

/-- Read a JSON text as a value. -/
def parse? (json : String) : Option Value :=
  (Json.parse? json).map ofJson

/-- The JSON text of a value in one line. -/
def toJsonText (v : Value) : String :=
  v.toJson.compact

end Value

end EditGuard
