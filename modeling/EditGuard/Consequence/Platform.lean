import EditGuard.Action
import EditGuard.Filter

/-!
# The platform of the guard

What the guard asks the platform to keep and to do: counters with lifetimes,
flags of the session, blocks and other measures, and a log of hits.  A platform
has a state; each operation may change it, and those on the state of all users
may fail.
-/

namespace EditGuard

/-- Whom a consequence concerns: the filter that matched and the action. -/
structure Subject where
  filter : FilterId
  filterName : String
  action : Action
deriving Repr, DecidableEq, Inhabited

/-- A block to be placed.  Without seconds it has no end. -/
structure BlockRequest where
  filter : FilterId
  /-- A name of a user, an address, or a network. -/
  target : String
  seconds : Option Nat
  isRange : Bool
  blocksTalk : Bool
  reason : String
deriving Repr, DecidableEq, Inhabited

/-- An entry of the log of hits. -/
structure AuditEntry where
  filter : FilterId
  filterName : String
  action : String
  userName : String
  page : String
  taken : List String
  dump : Option String
deriving Repr, DecidableEq, Inhabited

/-- An operation on a state that may fail.  What it has done to the state before
stays. -/
abbrev Operation (σ : Type) := ExceptT Fault (StateM σ)

/-- A platform with states of a type. -/
structure Platform (σ : Type) where
  /-- Count on under a key, from one with a lifetime in seconds if there is no
  count. -/
  increment : String → Nat → Operation σ Int
  count : String → Operation σ (Option Int)
  setCount : String → Int → Nat → Operation σ Unit
  block : BlockRequest → Operation σ Bool
  degroup : Subject → Operation σ Bool
  custom : String → List String → Subject → Operation σ Bool
  logHit : AuditEntry → Operation σ Unit
  countHit : FilterId → Operation σ Unit
  hasFlag : String → StateM σ Bool
  setFlag : String → StateM σ Unit
  clearFlag : String → StateM σ Unit

end EditGuard
