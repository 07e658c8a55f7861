import EditGuard.Variable.Lookup

/-!
# Dumps of variables

A dump is a JSON object of the variables that have values.  Of a protected
variable it tells only whether it counts as true.  Reading a dump brings old
names up to date.
-/

namespace EditGuard.Variable

/-- Read those of the named variables that are still pending. -/
def computeAll (host : Host) : List String → Reading Unit
  | [] => pure ()
  | name :: names => do
      if (((← get).vars.entry? name).map Entry.isPending).getD false then
        discard <| read host name .lax
      computeAll host names

/-- What a dump tells of a variable. -/
def dumped (isProtected : String → Bool) (name : String) (v : Value) : Value :=
  if isProtected name then .bool v.toBool else v

/-- The document of the variables that have values. -/
def dumpOf (isProtected : String → Bool) (vs : Variables) : Json :=
  .object (vs.values.map fun e => (e.1, (dumped isProtected e.1 e.2).toJson))

/-- Compute the named variables and write all that have values. -/
def writeDump (host : Host) (computed : List String) (isProtected : String → Bool) :
    Reading String := do
  computeAll host computed
  return (dumpOf isProtected (← get).vars).compact

/-- The variables of a dump. -/
def readDump (text : String) : Except Fault Variables :=
  match Json.parse? text with
  | some (.object members) =>
      let latest : Dictionary String Json := .ofList members
      let vs := latest.entries.foldl (fun (vs : Variables) e => vs.set e.1 (.ofJson e.2)) .empty
      .ok vs.renameAll
  | _ => .error .document

end EditGuard.Variable
