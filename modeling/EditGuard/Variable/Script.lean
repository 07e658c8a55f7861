import EditGuard.Fault
import EditGuard.Variables

/-!
# Computations of variables

A computation is a script, which may read other variables on its way.  A host
answers a question with a script.
-/

namespace EditGuard.Variable

/-- What a read does about a name that has no variable. -/
inductive ReadMode where
  /-- It is a defect. -/
  | strict
  /-- It is undefined. -/
  | lax
  /-- It is undefined; old names stand for the current ones. -/
  | current
deriving Repr, DecidableEq, Inhabited

/-- The name under which a read looks for a variable. -/
def ReadMode.target (mode : ReadMode) (name : String) : String :=
  match mode with
  | current => currentName (fold name)
  | strict | lax => fold name

/-- A computation: it is done, has failed, or needs to know a variable and goes on
with its value or with the reason why there is none. -/
inductive Script where
  | done (v : Value)
  | fail (f : Fault)
  | read (name : String) (mode : ReadMode) (next : Except Fault Value → Script)
deriving Inhabited

/-- A question to the host. -/
structure Request where
  method : HostMethod
  params : List Value
deriving Inhabited

/-- A host: how it answers a question after earlier ones. -/
abbrev Host := List Request → Request → Script

/-- A host that computes nothing. -/
def Host.none : Host :=
  fun _ request => .fail (.defect (.noComputation request.method.record))

/-- The variables of an action, and the questions that the host was asked, the
first one first. -/
structure Memory where
  vars : Variables
  requests : List Request
deriving Inhabited

/-- A computation that reads variables and may fail.  What was computed before a
failure is kept. -/
abbrev Reading := ExceptT Fault (StateM Memory)

namespace Script

/-- Carry out a script, given how it reads variables. -/
def run (read : String → ReadMode → Reading Value) : Script → Reading Value
  | done v => pure v
  | fail f => throw f
  | .read name mode next => do
      let outcome ← ExceptT.lift (read name mode).run
      (next outcome).run read

end Script

end EditGuard.Variable
