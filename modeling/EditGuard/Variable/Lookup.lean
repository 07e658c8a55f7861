import EditGuard.Variable.Intrinsic

/-!
# Reading variables

A pending variable is computed when it is read, and its value is kept.  A
variable that is read while it is being computed is circular.  Questions to the
host are recorded in their order.
-/

namespace EditGuard.Variable

/-- The computation of a pending variable, and a record of it if the host is
asked. -/
def scriptOf (host : Host) (c : Call) : Reading Script := do
  match c.method with
  | .intrinsic i => return i.script c.params
  | .host method =>
      let request : Request := ⟨method, c.params⟩
      let earlier := (← get).requests
      modify fun m => { m with requests := m.requests ++ [request] }
      return host earlier request

/-- Keep the value that a variable was found to have. -/
def keep (name : String) (v : Value) : Reading Unit :=
  modify fun m => { m with vars := m.vars.insert name (.value v) }

/-- Read a variable by the name under which it is kept.  `idle` holds the names of
the pending variables that are not being computed. -/
def readKept (host : Host) (idle : List String) (name : String) (mode : ReadMode) :
    Reading Value := do
  match (← get).vars.find? name with
  | some (.value v) => return v
  | none => if mode = .strict then throw (.defect (.unset name)) else return .undefined
  | some (.pending c) =>
      if _isIdle : name ∈ idle then
        let script ← scriptOf host c
        let v ← script.run fun other mode =>
          readKept host (idle.erase name) (mode.target other) mode
        keep name v
        return v
      else throw (.defect (.circular name))
termination_by idle.length
decreasing_by
  have := List.length_erase_of_mem _isIdle
  have := List.length_pos_of_mem _isIdle
  omega

/-- Read a variable while none is being computed. -/
def read (host : Host) (name : String) (mode : ReadMode) : Reading Value := do
  readKept host (← get).vars.pendingNames (mode.target name) mode

end EditGuard.Variable
