import EditGuard.Address
import EditGuard.Variables

/-!
# Actions

What is known about an action that is judged: what was done, by whom, and to
which page.
-/

namespace EditGuard

/-- An action and who takes it.  The account of an anonymous user is zero. -/
structure Action where
  action : String
  userName : String
  userId : Nat
  address : Option Address
  registration : Option String
  editCount : Int
  page : String
deriving Repr, DecidableEq, Inhabited

namespace Action

/-- Whether the user has an account. -/
def isRegistered (a : Action) : Bool :=
  a.userId != 0

/-- The action that variables describe.  Only variables with values count.  The
name of an anonymous user is an address. -/
def ofVariables (vs : Variables) (userId : Nat) (registration : Option String) : Action :=
  let value? (name : String) : Option Value := (vs.find? name).bind Variable.Entry.value?
  let text (name : String) : String := ((value? name).map Value.toText).getD ""
  let userName := text "user_name"
  { action := text "action"
    userName
    userId
    address := Address.parse? userName
    registration
    editCount := ((value? "user_editcount").map fun v => v.toInt.toInt).getD 0
    page := text "page_prefixedtitle" }

end Action

end EditGuard
