import EditGuard.Unicode.Property.Case
import EditGuard.Unicode.Property.Control
import EditGuard.Unicode.Property.Identifier
import EditGuard.Unicode.Property.Ideograph
import EditGuard.Unicode.Property.Mark
import EditGuard.Unicode.Property.Punctuation
import EditGuard.Unicode.Property.Symbol

/-!
# Binary properties

Unicode properties that a code point has or has not.
-/

namespace EditGuard.Unicode

def properties : List CharClass :=
  caseProperties ++ identifierProperties ++ markProperties ++ symbolProperties ++
    punctuationProperties ++ ideographProperties ++ controlProperties

end EditGuard.Unicode
