import EditGuard.Consequence.Platform

/-!
# A platform in memory

A ledger keeps counters, flags, and all measures that were taken, so that they
can be looked at.  Counters expire: from its expiry on a counter has no count.
-/

namespace EditGuard

/-- A count and the second from which on it is gone. -/
structure Counter where
  value : Int
  expiry : Nat
deriving Repr, DecidableEq, Inhabited

/-- The flags of a session. -/
abbrev Flags := Dictionary String Unit

/-- What a platform in memory keeps. -/
structure Ledger where
  /-- The current second. -/
  now : Nat
  counters : Dictionary String Counter
  flags : Flags
  blocks : List BlockRequest
  degrouped : List String
  custom : List (String × List String)
  audit : List AuditEntry
  hits : Dictionary FilterId Nat
deriving Inhabited

namespace Ledger

/-- A ledger without entries. -/
def opened (now : Nat) : Ledger :=
  ⟨now, .empty, .empty, [], [], [], [], .empty⟩

/-- The last second that there is. -/
def lastSecond : Nat := 0x7fffffffffffffff

/-- When a lifetime that begins now ends. -/
def expiryAfter (seconds : Nat) : Operation Ledger Nat := do
  let expiry := (← get).now + seconds
  if lastSecond < expiry then
    throw (.other s!"counter lifetime of {seconds}s is out of range")
  return expiry

/-- The count under a key that has not expired. -/
def count? (l : Ledger) (key : String) : Option Int :=
  ((l.counters.find? key).filter fun c => decide (l.now < c.expiry)).map Counter.value

/-- Count on under a key.  A new count has the given lifetime, and one that goes on
keeps its own. -/
def increment (key : String) (seconds : Nat) : Operation Ledger Int := do
  let expiry ← expiryAfter seconds
  let l ← get
  let counter : Counter :=
    match (l.counters.find? key).filter fun c => decide (l.now < c.expiry) with
    | some c => { c with value := c.value + 1 }
    | none => ⟨1, expiry⟩
  set { l with counters := l.counters.insert key counter }
  return counter.value

/-- Set the count under a key. -/
def setCount (key : String) (value : Int) (seconds : Nat) : Operation Ledger Unit := do
  let expiry ← expiryAfter seconds
  modify fun l => { l with counters := l.counters.insert key ⟨value, expiry⟩ }

/-- Take a counter away. -/
def deleteCount (key : String) : Operation Ledger Unit :=
  modify fun l => { l with counters := l.counters.erase key }

/-- Hits of a filter. -/
def hitCount (l : Ledger) (id : FilterId) : Nat :=
  (l.hits.find? id).getD 0

/-- The platform whose states are ledgers. -/
def platform : Platform Ledger :=
  { increment
    count := fun key => return (← get).count? key
    setCount
    block := fun request => do
      modify fun l => { l with blocks := l.blocks ++ [request] }
      return true
    degroup := fun subject => do
      modify fun l => { l with degrouped := l.degrouped ++ [subject.action.userName] }
      return true
    custom := fun name params _ => do
      modify fun l => { l with custom := l.custom ++ [(name, params)] }
      return true
    logHit := fun entry => modify fun l => { l with audit := l.audit ++ [entry] }
    countHit := fun id => modify fun l => { l with hits := l.hits.insert id (l.hitCount id + 1) }
    hasFlag := fun key => return (← get).flags.contains key
    setFlag := fun key => modify fun l => { l with flags := l.flags.insert key () }
    clearFlag := fun key => modify fun l => { l with flags := l.flags.erase key } }

end Ledger

end EditGuard
