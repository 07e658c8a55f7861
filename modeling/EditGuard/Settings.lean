import EditGuard.Fault
import EditGuard.Json.Record

/-!
# Settings

What can be set about the guard, with its defaults, and how settings are read
from JSON.
-/

namespace EditGuard

/-- What happens to an action when the conditions of its batch were used up. -/
inductive ExhaustionPolicy where
  /-- The action goes on. -/
  | allow
  | veto
deriving Repr, DecidableEq, Inhabited

/-- Whether a filter that fails counts as a match. -/
inductive FailurePolicy where
  | noMatch
  | asMatch
deriving Repr, DecidableEq, Inhabited

/-- The numbers of leading bits that blocked networks share. -/
structure RangeSize where
  v4 : Nat := 16
  v6 : Nat := 19
deriving Repr, DecidableEq, Inhabited

/-- The settings of the guard. -/
structure Settings where
  conditionLimit : Nat := 1000
  exhaustionPolicy : ExhaustionPolicy := .allow
  failurePolicy : FailurePolicy := .noMatch
  slowFilterMs : Nat := 500
  runtimeLimitMs : Option Nat := none
  patternCapacity : Nat := 128
  exhaustionTag : String := "abusefilter-condition-limit"
  /-- Actions that global filters may not take here. -/
  disabledGlobalActions : List String := []
  promotionBlockSeconds : Nat := 5 * 86400
  rangeSize : RangeSize := {}
  /-- Variables whose values do not leave the guard. -/
  protectedVariables : List String := ["user_unnamed_ip"]
  /-- Variables that are computed for a dump. -/
  dumpedVariables : List String := ["old_wikitext", "new_wikitext"]
  wikiName : String := "wiki"
  wikiLanguage : String := "en"
deriving Repr, DecidableEq

instance : Inhabited Settings :=
  ⟨{}⟩

namespace ExhaustionPolicy

def choices : List (String × ExhaustionPolicy) :=
  [("fail_open", allow), ("fail_closed", veto)]

end ExhaustionPolicy

namespace FailurePolicy

def choices : List (String × FailurePolicy) :=
  [("no_match", noMatch), ("match", asMatch)]

end FailurePolicy

/-- The name of a choice. -/
def nameOf {α : Type} [DecidableEq α] (choices : List (String × α)) (a : α) : String :=
  ((choices.find? fun c => c.2 = a).map Prod.fst).getD ""

namespace RangeSize

def fields : Json.Fields RangeSize :=
  [("ipv4", fun r j => (j.natural? 255).map fun n => { r with v4 := n }),
    ("ipv6", fun r j => (j.natural? 255).map fun n => { r with v6 := n })]

def toJson (r : RangeSize) : Json :=
  .object [("ipv4", .integer r.v4), ("ipv6", .integer r.v6)]

end RangeSize

namespace Settings

/-- The largest number in settings. -/
def numberLimit : Nat := 0xffffffffffffffff

/-- How each field is read. -/
def fields : Json.Fields Settings :=
  [("condition_limit",
      fun s j => (j.natural? numberLimit).map fun n => { s with conditionLimit := n }),
    ("condition_limit_policy",
      fun s j => (j.choice? ExhaustionPolicy.choices).map fun p => { s with exhaustionPolicy := p }),
    ("evaluation_error_policy",
      fun s j => (j.choice? FailurePolicy.choices).map fun p => { s with failurePolicy := p }),
    ("slow_filter_threshold_ms",
      fun s j => (j.natural? numberLimit).map fun n => { s with slowFilterMs := n }),
    ("runtime_limit_ms",
      fun s j => (j.nullable? (Json.natural? numberLimit)).map fun n => { s with runtimeLimitMs := n }),
    ("regex_cache_size",
      fun s j => (j.natural? numberLimit).map fun n => { s with patternCapacity := n }),
    ("condition_limit_tag", fun s j => j.text?.map fun t => { s with exhaustionTag := t }),
    ("locally_disabled_global_actions",
      fun s j => j.texts?.map fun names => { s with disabledGlobalActions := names }),
    ("block_autopromote_duration_secs",
      fun s j => (j.natural? numberLimit).map fun n => { s with promotionBlockSeconds := n }),
    ("range_block_size",
      fun s j => (j.setRecord RangeSize.fields {}).map fun r => { s with rangeSize := r }),
    ("protected_variables",
      fun s j => j.texts?.map fun names => { s with protectedVariables := names }),
    ("dump_computed_variables",
      fun s j => j.texts?.map fun names => { s with dumpedVariables := names }),
    ("wiki_name", fun s j => j.text?.map fun t => { s with wikiName := t }),
    ("wiki_language", fun s j => j.text?.map fun t => { s with wikiLanguage := t })]

/-- Read settings from a JSON text. -/
def parse (text : String) : Except Fault Settings :=
  match (Json.parse? text).bind (Json.setRecord fields {}) with
  | some s => .ok s
  | none => .error .document

/-- The document of settings. -/
def toJson (s : Settings) : Json :=
  let number (n : Nat) : Json := .integer n
  let strings (texts : List String) : Json := .array (texts.map .string)
  .object
    [("condition_limit", number s.conditionLimit),
      ("condition_limit_policy", .string (nameOf ExhaustionPolicy.choices s.exhaustionPolicy)),
      ("evaluation_error_policy", .string (nameOf FailurePolicy.choices s.failurePolicy)),
      ("slow_filter_threshold_ms", number s.slowFilterMs),
      ("runtime_limit_ms", (s.runtimeLimitMs.map number).getD .null),
      ("regex_cache_size", number s.patternCapacity),
      ("condition_limit_tag", .string s.exhaustionTag),
      ("locally_disabled_global_actions", strings s.disabledGlobalActions),
      ("block_autopromote_duration_secs", number s.promotionBlockSeconds),
      ("range_block_size", s.rangeSize.toJson),
      ("protected_variables", strings s.protectedVariables),
      ("dump_computed_variables", strings s.dumpedVariables),
      ("wiki_name", .string s.wikiName),
      ("wiki_language", .string s.wikiLanguage)]

/-- Whether the value of a variable does not leave the guard. -/
def isProtected (s : Settings) (name : String) : Bool :=
  s.protectedVariables.contains name

end Settings

end EditGuard
