import EditGuard.Budget
import EditGuard.Message
import EditGuard.Text.Integer

/-!
# Faults

What can go wrong outside of the text of a rule: a limit is exceeded, the rules
of lazy variables or of consequences are broken, a document or an integer cannot
be read, or the host fails.
-/

namespace EditGuard

/-- A defect of the guard or of its embedding. -/
inductive Defect where
  /-- A lazy variable needs itself. -/
  | circular (name : String)
  /-- A consequence was carried out before it was asked about the others. -/
  | notPrechecked (consequence : String)
  /-- Nobody computes a method. -/
  | noComputation (method : String)
  | unset (name : String)
deriving Repr, DecidableEq, Inhabited

/-- The wording of a defect. -/
def Defect.text : Defect → String
  | circular name => s!"circular computation of lazy variable \x60{name}\x60"
  | notPrechecked consequence =>
      s!"consequence \x60{consequence}\x60 was executed before its disabling precheck"
  | noComputation method => s!"no computation is available for method \x60{method}\x60"
  | unset name => s!"variable \x60{name}\x60 is not set"

/-- What can go wrong outside of the text of a rule. -/
inductive Fault where
  | overrun (o : Overrun)
  | defect (d : Defect)
  /-- A document is no JSON or not of the right form. -/
  | document
  | integer (f : Text.IntegerFault)
  /-- The host reports a problem to the author of the rule. -/
  | reported (message : Message) (position : Nat) (quotation : String)
  | other (text : String)
deriving Repr, DecidableEq, Inhabited

namespace Fault

/-- The wording of a fault. -/
def text : Fault → String
  | overrun o => o.text
  | defect d => d.text
  | document => "malformed document"
  | integer f => f.text
  | reported message _ quotation => message.text ++ quotation
  | other text => text

end Fault

end EditGuard
