/-!
# Kinds of consequences

The names of the consequences that a filter may have, the order in which they
are carried out, and what they do to the action and to each other.
-/

namespace EditGuard

/-- A kind of consequence. -/
inductive ConsequenceKind where
  | throttle
  | warn
  | disallow
  | block
  | rangeBlock
  | degroup
  | blockPromotion
  | tag
  /-- Only the host knows what it means. -/
  | custom
deriving Repr, DecidableEq, Inhabited

namespace ConsequenceKind

/-- The kind that a name of an action stands for. -/
def ofName (name : String) : ConsequenceKind :=
  match name with
  | "throttle" => throttle
  | "warn" => warn
  | "disallow" => disallow
  | "block" => block
  | "rangeblock" => rangeBlock
  | "degroup" => degroup
  | "blockautopromote" => blockPromotion
  | "tag" => tag
  | _ => custom

/-- Consequences with less of it come first. -/
def priority : ConsequenceKind → Nat
  | throttle => 0
  | warn => 5
  | disallow => 10
  | block => 20
  | rangeBlock => 25
  | degroup => 30
  | blockPromotion => 35
  | tag => 40
  | custom => 50

/-- Whether it may suppress the other consequences of its filter. -/
def isDisabler : ConsequenceKind → Bool
  | throttle | warn => true
  | _ => false

/-- Whether it keeps the action from happening. -/
def vetoes : ConsequenceKind → Bool
  | warn | disallow | block | rangeBlock | degroup | blockPromotion => true
  | throttle | tag | custom => false

end ConsequenceKind

end EditGuard
