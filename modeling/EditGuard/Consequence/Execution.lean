import EditGuard.Consequence
import EditGuard.Tags

/-!
# Carrying out consequences

The consequences of all filters that matched are first asked whether they
suppress the others of their filter; then those that are left are carried out in
the order of their priorities, and at last each hit is logged.  Of several blocks
only the longest is placed.  A consequence that fails does not stop the others.
-/

namespace EditGuard

variable {σ : Type}

/-- The state of the platform and the tags of the action. -/
structure Scene (σ : Type) where
  platform : σ
  tags : Tags
deriving Inhabited

namespace Scene

/-- An operation of the platform. -/
def lift {α : Type} (op : Operation σ α) : Operation (Scene σ) α := do
  let s ← get
  let (outcome, platform) := op.run.run s.platform
  set { s with platform }
  match outcome with
  | .ok a => pure a
  | .error f => throw f

/-- An operation of the platform that does not fail. -/
def liftTotal {α : Type} (op : StateM σ α) : Operation (Scene σ) α := do
  let s ← get
  let (a, platform) := op.run s.platform
  set { s with platform }
  return a

end Scene

namespace Throttle

/-- Whether a group has had its hits.  All groups are asked. -/
def isEngaged (p : Platform σ) (count : Int) : List String → Operation (Scene σ) Bool
  | [] => return false
  | key :: keys => do
      let hits ← Scene.lift (p.count key)
      let later ← isEngaged p count keys
      return decide (count ≤ hits.getD 0) || later

/-- Count a hit of each group. -/
def countHits (p : Platform σ) (seconds : Nat) : List String → Operation (Scene σ) Unit
  | [] => return
  | key :: keys => do
      discard <| Scene.lift (p.increment key seconds)
      countHits p seconds keys

/-- The keys of all groups. -/
def keys (t : Throttle) (settings : Settings) (s : Subject) : List String :=
  t.groups.map (t.key settings s)

end Throttle

namespace Consequence

/-! ## One consequence -/

/-- Ask a consequence whether it suppresses the others of its filter. -/
def asksToSuppress (p : Platform σ) (settings : Settings) (c : Consequence) :
    Operation (Scene σ) Bool :=
  match c.measure with
  | .throttle t => Throttle.isEngaged p t.count (t.keys settings c.subject)
  | .warn _ => do return !(← Scene.liftTotal (p.hasFlag (warnedKey c.subject)))
  | _ => return false

/-- Ask a consequence about the others, and keep the answer of one that may suppress
them. -/
def precheck (p : Platform σ) (settings : Settings) (c : Consequence) :
    Operation (Scene σ) (Bool × Consequence) := do
  let answer ← c.asksToSuppress p settings
  return (answer, if c.kind.isDisabler then { c with suppresses := some answer } else c)

/-- Place a block of the user. -/
def blockRequest (s : Subject) (seconds : Option Nat) (blocksTalk : Bool) : BlockRequest :=
  { filter := s.filter
    target := s.action.userName
    seconds
    isRange := false
    blocksTalk
    reason := s.filterName }

/-- Seconds for which a network is blocked. -/
def rangeBlockSeconds : Nat := 7 * 86400

/-- Place a block of the network around an address. -/
def rangeBlockRequest (settings : Settings) (s : Subject) (address : Address) : BlockRequest :=
  { filter := s.filter
    target := address.networkText settings.rangeSize.v4 settings.rangeSize.v6
    seconds := some rangeBlockSeconds
    isRange := true
    blocksTalk := false
    reason := s.filterName }

/-- Carry out a consequence.  The answer tells whether it took effect. -/
def carryOut (p : Platform σ) (settings : Settings) (c : Consequence) :
    Operation (Scene σ) Bool := do
  let s := c.subject
  match c.measure with
  | .throttle t =>
      match c.suppresses with
      | none => throw (.defect (.notPrechecked "throttle"))
      | some engaged =>
          Throttle.countHits p t.seconds (t.keys settings s)
          return !engaged
  | .warn _ =>
      match c.suppresses with
      | none => throw (.defect (.notPrechecked "warn"))
      | some warns =>
          let change := if warns then p.setFlag else p.clearFlag
          Scene.liftTotal (change (warnedKey s))
          return warns
  | .disallow _ => return true
  | .block seconds blocksTalk => Scene.lift (p.block (blockRequest s seconds blocksTalk))
  | .rangeBlock =>
      match s.action.address with
      | none => return false
      | some address => Scene.lift (p.block (rangeBlockRequest settings s address))
  | .degroup =>
      if s.action.isRegistered then Scene.lift (p.degroup s) else return false
  | .blockPromotion seconds =>
      if s.action.isRegistered then
        Scene.lift (p.setCount (promotionKey s.action.userId) 1
          (seconds.getD settings.promotionBlockSeconds))
        return true
      else return false
  | .tag tags =>
      modify fun scene => { scene with tags := scene.tags.addAll tags }
      return !tags.isEmpty
  | .custom name params => Scene.lift (p.custom name params s)

end Consequence

namespace Execution

/-! ## The consequences of one filter -/

/-- The actions that count: global filters may not take disabled ones, and a block
makes a refusal needless. -/
def effectiveActions (settings : Settings) (id : FilterId) (actions : Actions) : Actions :=
  let actions :=
    if id.isGlobal then actions.filter fun a => !settings.disabledGlobalActions.contains a.1
    else actions
  if actions.contains "block" then actions.erase "disallow" else actions

/-- The consequences of actions in the order of their priorities.  Actions whose
parameters are refused have none. -/
def buildAll (actions : Actions) (s : Subject) : List Consequence :=
  let built := actions.entries.filterMap fun a => (Consequence.build a.1 a.2 s).toOption
  built.mergeSort fun c d => c.priority ≤ d.priority

/-- Ask the consequences of a filter about each other, given those that were kept.
Once one of them suppresses the others, only those that were asked are left.  One
that could not be asked is dropped. -/
def askAll (p : Platform σ) (settings : Settings) (kept : List Consequence) :
    List Consequence → StateM (Scene σ) (List Consequence)
  | [] => return kept
  | c :: cs => do
      if !c.kind.isDisabler then askAll p settings (kept ++ [c]) cs
      else
        match ← (c.precheck p settings).run with
        | .ok (true, c) => return kept.filter (·.kind.isDisabler) ++ [c]
        | .ok (false, c) => askAll p settings (kept ++ [c]) cs
        | .error _ => askAll p settings kept cs

/-- The consequences of a filter that are left after they were asked.  A filter
without identity or without loadable actions has none. -/
def ofFilter (p : Platform σ) (settings : Settings) (source : FilterSource) (action : Action)
    (f : Filter) : StateM (Scene σ) (List Consequence) := do
  match f.id, f.loadActions source with
  | some id, .ok actions =>
      askAll p settings [] (buildAll (effectiveActions settings id actions) ⟨id, f.name, action⟩)
  | _, _ => return []

/-- The consequences of several filters. -/
def ofFilters (p : Platform σ) (settings : Settings) (source : FilterSource) (action : Action) :
    List Filter → StateM (Scene σ) (List Consequence)
  | [] => return []
  | f :: fs => do
      let first ← ofFilter p settings source action f
      return first ++ (← ofFilters p settings source action fs)

/-! ## Blocks -/

/-- How long a block lasts. -/
def blockLength? (c : Consequence) : Option (Option Nat) :=
  match c.measure with
  | .block seconds _ => some seconds
  | _ => none

/-- Whether one duration is longer than another; without seconds it has no end. -/
def outlasts : Option Nat → Option Nat → Bool
  | none, some _ => true
  | some a, some b => decide (b < a)
  | _, none => false

/-- Whether a block is to be placed rather than another one: it lasts longer, or as
long and its filter comes first. -/
def isPreferred (a b : Option Nat × FilterId) : Bool :=
  outlasts a.1 b.1 || (!outlasts b.1 a.1 && compare a.2 b.2 == .lt)

/-- The number of the block that is to be placed, given the next number and the best
block so far with its number. -/
def longestBlock? (i : Nat) (best : Option (Nat × Option Nat × FilterId)) :
    List Consequence → Option Nat
  | [] => best.map Prod.fst
  | c :: cs =>
      match blockLength? c with
      | none => longestBlock? (i + 1) best cs
      | some seconds =>
          let candidate := (seconds, c.subject.filter)
          let better := (best.map fun b => isPreferred candidate b.2).getD true
          longestBlock? (i + 1) (if better then some (i, candidate) else best) cs

/-- Keep the block with a number, given the next number, and all that is no block. -/
def dropOtherBlocks (chosen : Option Nat) (i : Nat) : List Consequence → List Consequence
  | [] => []
  | c :: cs =>
      let rest := dropOtherBlocks chosen (i + 1) cs
      if c.kind = .block ∧ chosen ≠ some i then rest else c :: rest

/-- Keep only the longest of all blocks. -/
def keepLongestBlock (cs : List Consequence) : List Consequence :=
  dropOtherBlocks (longestBlock? 0 none cs) 0 cs

/-- The order in which consequences are carried out. -/
def inOrder (cs : List Consequence) : List Consequence :=
  cs.mergeSort fun c d =>
    ((compare c.priority d.priority).then (compare c.subject.filter d.subject.filter)).isLE

/-! ## All filters -/

end Execution

/-- What was carried out. -/
structure ExecutionResult where
  /-- The messages of the consequences that took effect. -/
  messages : List Message
  /-- The action is not to happen. -/
  vetoed : Bool
  /-- The consequences of each filter that took effect. -/
  taken : Dictionary FilterId (List String)
  /-- The consequences that failed, with the wording of the fault. -/
  failures : List (FilterId × String × String)
deriving Inhabited

namespace ExecutionResult

/-- Nothing was carried out. -/
def nothing : ExecutionResult :=
  ⟨[], false, .empty, []⟩

/-- The consequences of a filter that took effect. -/
def takenBy (r : ExecutionResult) (id : FilterId) : List String :=
  (r.taken.find? id).getD []

/-- A consequence was carried out. -/
def add (r : ExecutionResult) (c : Consequence) : Except Fault Bool → ExecutionResult
  | .ok true =>
      let id := c.subject.filter
      { r with
        messages := r.messages ++ c.message?.toList
        vetoed := r.vetoed || c.kind.vetoes
        taken := r.taken.insert id (r.takenBy id ++ [c.name]) }
  | .ok false => r
  | .error f => { r with failures := r.failures ++ [(c.subject.filter, c.name, f.text)] }

end ExecutionResult

namespace Execution

/-- Carry out consequences one after the other. -/
def carryOutAll (p : Platform σ) (settings : Settings) (r : ExecutionResult) :
    List Consequence → StateM (Scene σ) ExecutionResult
  | [] => return r
  | c :: cs => do
      let outcome ← (c.carryOut p settings).run
      carryOutAll p settings (r.add c outcome) cs

/-- The entry for a hit. -/
def auditEntry (action : Action) (dump : Option String) (r : ExecutionResult) (id : FilterId)
    (name : String) : AuditEntry :=
  { filter := id
    filterName := name
    action := action.action
    userName := action.userName
    page := action.page
    taken := r.takenBy id
    dump }

/-- Log and count the hit of each filter, whether or not the platform can. -/
def logHits (p : Platform σ) (action : Action) (dump : Option String) (r : ExecutionResult) :
    List Filter → StateM (Scene σ) Unit
  | [] => return
  | f :: fs => do
      match f.id with
      | none => pure ()
      | some id =>
          discard (Scene.lift (p.logHit (auditEntry action dump r id f.name))).run
          discard (Scene.lift (p.countHit id)).run
      logHits p action dump r fs

/-- The consequences that are carried out for filters, in order. -/
def pending (p : Platform σ) (settings : Settings) (source : FilterSource) (action : Action)
    (matched : List Filter) : StateM (Scene σ) (List Consequence) := do
  return inOrder (keepLongestBlock (← ofFilters p settings source action matched))

/-- Carry out the consequences of filters that matched, and log their hits. -/
def run (p : Platform σ) (settings : Settings) (source : FilterSource) (action : Action)
    (matched : List Filter) (dump : Option String) : StateM (Scene σ) ExecutionResult := do
  let cs ← pending p settings source action matched
  let r ← carryOutAll p settings .nothing cs
  logHits p action dump r matched
  return r

end Execution

end EditGuard
