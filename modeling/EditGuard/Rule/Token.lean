import EditGuard.Rule.Source
import EditGuard.Value

/-!
# Words of a rule

The tokens of the rule language: names, keywords, operators, literals and
punctuation.  A token keeps the text it was written as, for messages, and the
stretch of the rule that it covers.  Names and keywords do not distinguish
ASCII upper and lower case.
-/

namespace EditGuard.Rule

/-- The keywords of the language. -/
inductive Keyword where
  | within
  | like
  | matching
  | contains
  | rlike
  | irlike
  | regex
  | trueLiteral
  | falseLiteral
  | nullLiteral
  | ifThen
  | thenBranch
  | elseBranch
  | endIf
deriving Repr, DecidableEq, Inhabited

namespace Keyword

def all : List Keyword :=
  [within, like, matching, contains, rlike, irlike, regex, trueLiteral,
    falseLiteral, nullLiteral, ifThen, thenBranch, elseBranch, endIf]

/-- The spelling of a keyword in lower case. -/
def word : Keyword → String
  | within => "in"
  | like => "like"
  | matching => "matches"
  | contains => "contains"
  | rlike => "rlike"
  | irlike => "irlike"
  | regex => "regex"
  | trueLiteral => "true"
  | falseLiteral => "false"
  | nullLiteral => "null"
  | ifThen => "if"
  | thenBranch => "then"
  | elseBranch => "else"
  | endIf => "end"

/-- The keyword that a word in lower case spells. -/
def ofWord? (word : String) : Option Keyword :=
  all.find? fun k => k.word == word

end Keyword

/-- The operator signs of the language. -/
inductive Operator where
  | strictNe
  | strictEq
  | ne
  | power
  | assign
  | le
  | ge
  | eq
  | not
  | times
  | divide
  | plus
  | minus
  | modulo
  | and
  | or
  | xor
  | question
  | colon
  | lt
  | gt
  | equals
deriving Repr, DecidableEq, Inhabited

namespace Operator

/-- All operators, those with more characters first, so that the first one that
a text begins with is the longest. -/
def all : List Operator :=
  [strictNe, strictEq, ne, power, assign, le, ge, eq, not, times, divide, plus,
    minus, modulo, and, or, xor, question, colon, lt, gt, equals]

/-- The characters of an operator. -/
def symbol : Operator → List Char
  | strictNe => ['!', '=', '=']
  | strictEq => ['=', '=', '=']
  | ne => ['!', '=']
  | power => ['*', '*']
  | assign => [':', '=']
  | le => ['<', '=']
  | ge => ['>', '=']
  | eq => ['=', '=']
  | not => ['!']
  | times => ['*']
  | divide => ['/']
  | plus => ['+']
  | minus => ['-']
  | modulo => ['%']
  | and => ['&']
  | or => ['|']
  | xor => ['^']
  | question => ['?']
  | colon => [':']
  | lt => ['<']
  | gt => ['>']
  | equals => ['=']

/-- The longest operator at the head of a text. -/
def atHead? (cs : List Char) : Option Operator :=
  all.find? fun op => op.symbol.isPrefixOf cs

end Operator

/-- What a token is.  Literals carry their value. -/
inductive Lexeme where
  /-- A name, in lower case. -/
  | name (name : String)
  | keyword (k : Keyword)
  | operator (op : Operator)
  | text (s : String)
  | int (n : Int64)
  | float (x : Float)
  | leftParen
  | rightParen
  | leftBracket
  | rightBracket
  | comma
  | semicolon

namespace Lexeme

/-- What a token is called in messages. -/
def kindName : Lexeme → String
  | name _ => "identifier"
  | keyword _ => "keyword"
  | operator _ => "operator"
  | text _ => "string"
  | int _ => "integer"
  | float _ => "float"
  | leftParen | rightParen => "parenthesis"
  | leftBracket | rightBracket => "square bracket"
  | comma => "comma"
  | semicolon => "statement separator"

/-- What the end of a rule is called in messages. -/
def endName : String := "end of input"

/-- The value of a literal. -/
def value : Lexeme → Value
  | text s => .text s
  | int n => .int n
  | float x => .float x
  | _ => .undefined

end Lexeme

/-- A token: what it is, how it is written, and where. -/
structure Token where
  lexeme : Lexeme
  written : String
  span : Span

/-- How messages show a token.  Keywords appear in lower case. -/
def Token.shown (t : Token) : String :=
  match t.lexeme with
  | .keyword k => k.word
  | _ => t.written

/-- The tokens of a rule and the place where its text ends. -/
structure Tokens where
  tokens : List Token
  finish : Mark

end EditGuard.Rule
