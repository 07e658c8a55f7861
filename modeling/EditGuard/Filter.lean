import EditGuard.Dictionary
import EditGuard.Fault

/-!
# Filters

A filter is a rule with the actions that are taken against an edit which it
matches.  Filters are known by their numbers; those that hold everywhere have
numbers of their own.
-/

namespace EditGuard

/-- The identity of a filter. -/
structure FilterId where
  isGlobal : Bool
  number : Nat
deriving Repr, DecidableEq, Inhabited

namespace FilterId

/-- Local filters come before global ones. -/
instance : Ord FilterId :=
  ⟨compareLex (compareOn isGlobal) (compareOn number)⟩

instance : Std.TransOrd FilterId :=
  inferInstanceAs (Std.TransCmp (compareLex (compareOn isGlobal) (compareOn number)))

instance : Std.LawfulEqOrd FilterId where
  eq_of_compare {a b} h := by
    have fields : compareLex (compareOn isGlobal) (compareOn number) a b = .eq := h
    simp [compareLex, compareOn, Ordering.then_eq_eq] at fields
    cases a
    cases b
    simp_all

def text (id : FilterId) : String :=
  if id.isGlobal then s!"global-{id.number}" else toString id.number

/-- An identity in records, with the names of its parts. -/
def record (id : FilterId) : String :=
  let isGlobal := if id.isGlobal then "true" else "false"
  "FilterId \x7b global: " ++ isGlobal ++ ", id: " ++ toString id.number ++ " \x7d"

end FilterId

/-- Actions by their names, with their parameters. -/
abbrev Actions := Dictionary String (List String)

/-- Where the actions of a filter are. -/
inductive ActionsSource where
  | loaded (actions : Actions)
  /-- They are to be loaded under a number. -/
  | deferred (handle : Nat)
deriving Inhabited

/-- What holds of a filter. -/
structure FilterFlags where
  enabled : Bool
  deleted : Bool
  hidden : Bool
  suppressed : Bool
  protect : Bool
  isGlobal : Bool
deriving Repr, DecidableEq, Inhabited

/-- A rule with its actions.  A filter that was never saved has no identity. -/
structure Filter where
  id : Option FilterId
  name : String
  rules : String
  group : String
  flags : FilterFlags
  actions : ActionsSource
deriving Inhabited

namespace Filter

/-- An enabled local filter of the group `default`, without actions. -/
def ofRules (number : Nat) (rules : String) : Filter :=
  { id := some ⟨false, number⟩
    name := s!"Filter {number}"
    rules
    group := "default"
    flags := ⟨true, false, false, false, false, false⟩
    actions := .loaded .empty }

/-- Set the flags, of which one is part of the identity. -/
def withFlags (f : Filter) (flags : FilterFlags) : Filter :=
  { f with flags, id := f.id.map fun id => { id with isGlobal := flags.isGlobal } }

/-- Add an action.  Actions that are not loaded are given up. -/
def withAction (f : Filter) (name : String) (params : List String) : Filter :=
  let actions :=
    match f.actions with
    | .loaded actions => actions
    | .deferred _ => .empty
  { f with actions := .loaded (actions.insert name params) }

/-- Whether a filter is to be evaluated at all. -/
def isRunnable (f : Filter) : Bool :=
  f.id.isSome && f.flags.enabled && !f.flags.deleted

end Filter

/-- A store of filters: the filters of a group, and the actions under a number. -/
structure FilterSource where
  filters : String → Except Fault (List Filter)
  load : Filter → Nat → Except Fault Actions

/-- The actions of a filter. -/
def Filter.loadActions (f : Filter) (source : FilterSource) : Except Fault Actions :=
  match f.actions with
  | .loaded actions => .ok actions
  | .deferred handle => source.load f handle

/-- Filters that are kept in memory, with the actions that they defer. -/
structure FilterStore where
  filters : List Filter
  deferred : Dictionary Nat Actions
deriving Inhabited

namespace FilterStore

/-- The actions under a number. -/
def load (s : FilterStore) (f : Filter) (handle : Nat) : Except Fault Actions :=
  match s.deferred.find? handle with
  | some actions => .ok actions
  | none =>
      let filter := (f.id.map fun id => s!"Some({id.record})").getD "None"
      .error (.other s!"no actions stored for filter {filter} (handle {handle})")

/-- The filters of a group. -/
def ofGroup (s : FilterStore) (group : String) : List Filter :=
  s.filters.filter fun f => f.group == group

def toSource (s : FilterStore) : FilterSource :=
  { filters := fun group => .ok (s.ofGroup group)
    load := s.load }

end FilterStore

end EditGuard
