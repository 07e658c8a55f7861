import EditGuard.Dictionary
import EditGuard.Value.Order
import EditGuard.Variable.Method
import EditGuard.Variable.Name

/-!
# The variables of an action

Each variable has a value or is pending: it names the method by which it is
computed when it is read.  Variables are kept under their folded names, in the
order of these.
-/

namespace EditGuard

namespace Variable

/-- A method and what it is applied to. -/
structure Call where
  method : Method
  params : List Value
deriving Inhabited

/-- What is known of a variable. -/
inductive Entry where
  | value (v : Value)
  | pending (c : Call)
deriving Inhabited

namespace Entry

/-- The value, unless it is still to be computed. -/
def value? : Entry → Option Value
  | value v => some v
  | pending _ => none

def isPending : Entry → Bool
  | value _ => false
  | pending _ => true

/-- Whether two entries have equal values, or the same method with equal
parameters. -/
def same : Entry → Entry → Bool
  | value v, value w => v.strictEq w
  | pending c, pending d =>
      c.method == d.method && (Value.list c.params).strictEq (.list d.params)
  | _, _ => false

end Entry

end Variable

/-- The variables of an action by their folded names. -/
abbrev Variables := Dictionary String Variable.Entry

namespace Variables

open Variable

/-- What is known of a variable. -/
def entry? (vs : Variables) (name : String) : Option Entry :=
  vs.find? (fold name)

/-- Whether there is a variable of a name. -/
def has (vs : Variables) (name : String) : Bool :=
  (vs.entry? name).isSome

/-- Give a variable a value. -/
def set (vs : Variables) (name : String) (v : Value) : Variables :=
  vs.insert (fold name) (.value v)

/-- Let a variable be computed when it is read. -/
def setPending (vs : Variables) (name : String) (c : Call) : Variables :=
  vs.insert (fold name) (.pending c)

/-- Take a variable away. -/
def remove (vs : Variables) (name : String) : Variables :=
  vs.erase (fold name)

/-- The variables that have values. -/
def values (vs : Variables) : List (String × Value) :=
  vs.entries.filterMap fun e => e.2.value?.map (e.1, ·)

/-- The names of the variables that are still to be computed. -/
def pendingNames (vs : Variables) : List String :=
  (vs.entries.filter fun e => e.2.isPending).map Prod.fst

/-- Move a variable to the current form of its name, unless there is one of that
name. -/
def renameEntry (vs : Variables) (name : String) : Variables :=
  match vs.find? name with
  | some entry => (vs.erase name).insertNew (currentName name) entry
  | none => vs

/-- Move all variables with old names to their current names. -/
def renameAll (vs : Variables) : Variables :=
  (vs.keys.filter fun name => (replacement? name).isSome).foldl renameEntry vs

/-- Whether two actions have the same variables with equal entries. -/
def same (vs ws : Variables) : Bool :=
  vs.keys == ws.keys && (vs.items.zip ws.items).all fun p => p.1.same p.2

/-- The variables that need no action. -/
def general (timestamp wikiName wikiLanguage : String) : Variables :=
  let vs : Variables := Dictionary.empty
  let vs := vs.set "timestamp" (.text timestamp)
  let vs := vs.set "wiki_name" (.text wikiName)
  vs.set "wiki_language" (.text wikiLanguage)

end Variables

end EditGuard
