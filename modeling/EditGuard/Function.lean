import EditGuard.Address.Range
import EditGuard.Function.Text
import EditGuard.Glob
import EditGuard.Pattern.Cache
import EditGuard.Rule.Expr
import EditGuard.Rule.Problem

/-!
# Functions and keyword operators

The functions of the rule language with the numbers of arguments that they take,
and the operators that are spelled as keywords.  Both see values only.  A
function may refuse an argument; an operator may refuse its right side.
-/

namespace EditGuard

open Rule (Problem KeywordOp)

namespace Function

/-- Why a function refuses its arguments, and which one is to blame. -/
structure Refusal where
  argument : Nat
  problem : Problem
deriving Repr, DecidableEq, Inhabited

/-- What a function does with its arguments. -/
inductive Body where
  /-- It computes a value. -/
  | total (f : List Value → Value)
  /-- It may refuse an argument. -/
  | checked (f : List Value → Except Refusal Value)
  /-- One of the arguments is a pattern. -/
  | withPattern (argument : Nat) (f : Pattern → List Value → Value)
  /-- It gives a value to the local variable that its first argument names. -/
  | setter

end Function

/-- A function of the rule language: the numbers of arguments that it takes, and
what it does with a number of them. -/
structure Function where
  least : Nat
  most : Option Nat
  body : Nat → Function.Body

namespace Function

/-! ## Patterns -/

/-- The problem of a text that is no pattern. -/
def badPattern (text : String) (e : Pattern.PatternError) : Problem :=
  .badPattern e.explanation text

/-- The number of matches in a text. -/
def countMatches (p : Pattern) (args : List Value) : Value :=
  .ofNat (p.matchesOf (textArg args 1)).length

/-- What the groups of the first match hold.  A group that takes no part is false,
and so are all when there is no match. -/
def groupsOf (p : Pattern) (args : List Value) : Value :=
  let text := textArg args 1
  let found := p.match? text
  .list ((List.range p.groups).map fun i =>
    match found.bind fun m => m.group? text.toList i with
    | some cs => .text (String.ofList cs)
    | none => .bool false)

/-- Put an expanded replacement in place of each match. -/
def replaceMatches (p : Pattern) (args : List Value) : Value :=
  .text (p.replaceAll (textArg args 0) (textArg args 2))

/-! ## Address ranges -/

/-- Whether an address is in one of the ranges that the arguments from a number on
write.  All of them have to be ranges. -/
def inRanges (address : Option Address) (i : Nat) : List Value → Except Refusal Bool
  | [] => .ok false
  | v :: vs =>
      match Address.Range.parse? v.toText with
      | none => .error ⟨i, .badAddressRange v.toText⟩
      | some range => do
          let later ← inRanges address (i + 1) vs
          return (address.map range.contains).getD false || later

/-- Whether the first argument is an address in one of the ranges. -/
def addressInRanges (args : List Value) : Except Refusal Value :=
  let address := Address.Range.address? (textArg args 0).toList
  (inRanges address 1 args.tail).map .bool

/-! ## The table of functions -/

/-- A function of one text. -/
def ofText (f : String → String) : Function :=
  ⟨1, some 1, fun _ => .total (onText f)⟩

/-- A function of one value. -/
def ofValue (f : Value → Value) : Function :=
  ⟨1, some 1, fun _ => .total fun args => f (firstArg args)⟩

/-- A function of a number of arguments that always has a value. -/
def total (least : Nat) (most : Option Nat) (f : List Value → Value) : Function :=
  ⟨least, most, fun _ => .total f⟩

/-- The functions by their names. -/
def table : List (String × Function) :=
  [("lcase", ofText Text.toLower),
    ("ucase", ofText Text.toUpper),
    ("length", total 1 (some 1) length),
    ("strlen", total 1 (some 1) length),
    ("norm", ofText normalized),
    ("ccnorm", ofText Text.foldLookalikes),
    ("specialratio", total 1 (some 1) specialRatio),
    ("rmspecials", ofText withoutSpecials),
    ("rmdoubles", ofText withoutRepeats),
    ("rmwhitespace", ofText withoutBlanks),
    ("count", ⟨1, some 2, fun count =>
      .total (if count = 1 then fun args => countItems (firstArg args) else countOccurrences)⟩),
    ("substr", total 2 (some 3) substring),
    ("strpos", total 2 (some 3) position),
    ("str_replace", total 3 (some 3) replace),
    ("sanitize", ofText withoutReferences),
    ("string", ofValue fun v => .text v.toText),
    ("int", ofValue fun v => .int v.toInt),
    ("float", ofValue fun v => .float v.toFloat),
    ("bool", ofValue fun v => .bool v.toBool),
    ("contains_any", total 2 none (containsSome id)),
    ("contains_all", total 2 none (containsAll id)),
    ("ccnorm_contains_any", total 2 none (containsSome Text.foldLookalikes)),
    ("ccnorm_contains_all", total 2 none (containsAll Text.foldLookalikes)),
    ("equals_to_any", total 2 none equalsAny),
    ("rcount", ⟨1, some 2, fun count =>
      if count = 1 then .total fun args => countItems (firstArg args)
      else .withPattern 0 countMatches⟩),
    ("get_matches", ⟨2, some 2, fun _ => .withPattern 0 groupsOf⟩),
    ("str_replace_regexp", ⟨3, some 3, fun _ => .withPattern 1 replaceMatches⟩),
    ("rescape", ofText Pattern.escape),
    ("set", ⟨2, some 2, fun _ => .setter⟩),
    ("set_var", ⟨2, some 2, fun _ => .setter⟩),
    ("ip_in_range", ⟨2, some 2, fun _ => .checked addressInRanges⟩),
    ("ip_in_ranges", ⟨2, none, fun _ => .checked addressInRanges⟩)]

/-- What a function of a name does with a number of arguments. -/
def find (name : String) (count : Nat) : Except Problem Body :=
  match table.lookup name with
  | none => .error (.unknownFunction name)
  | some f =>
      if count = 0 ∧ 0 < f.least then .error (.noArguments name)
      else if count < f.least then .error (.notEnoughArguments name f.least count)
      else
        match f.most with
        | none => .ok (f.body count)
        | some most =>
            if most < count then .error (.tooManyArguments name most count)
            else .ok (f.body count)

/-- Which argument of a function is a pattern. -/
def Body.pattern? : Body → Option Nat
  | withPattern argument _ => some argument
  | _ => none

/-- Apply a function, and keep the pattern that it has read. -/
def Body.apply (args : List Value) (patterns : Pattern.Cache) :
    Body → Except Refusal (Value × Pattern.Cache)
  | total f => .ok (f args, patterns)
  | checked f => (f args).map fun v => (v, patterns)
  | withPattern argument f =>
      let text := textArg args argument
      match patterns.get text false with
      | .error e => .error ⟨argument, badPattern text e⟩
      | .ok (p, patterns) => .ok (f p args, patterns)
  | setter => .ok (args.getD 1 .null, patterns)

/-- The case sensitivity of an operator whose right side is a pattern. -/
def patternCase? : KeywordOp → Option Bool
  | .rlike => some false
  | .irlike => some true
  | _ => none

/-- Apply a keyword operator, and keep the pattern that it has read. -/
def applyKeyword (op : KeywordOp) (left right : Value) (patterns : Pattern.Cache) :
    Except Problem (Bool × Pattern.Cache) :=
  let subject := left.toText
  let other := right.toText
  let byPattern (insensitive : Bool) : Except Problem (Bool × Pattern.Cache) :=
    match patterns.get other insensitive with
    | .error e => .error (badPattern other e)
    | .ok (p, patterns) => .ok (p.isMatch subject, patterns)
  match op with
  | .within => .ok (contains subject other, patterns)
  | .contains => .ok (contains other subject, patterns)
  | .like => .ok (Glob.isMatch other subject, patterns)
  | .rlike => byPattern false
  | .irlike => byPattern true

end Function

end EditGuard
