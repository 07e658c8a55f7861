import EditGuard.Batch
import EditGuard.Consequence.Execution
import EditGuard.Rule.Check
import EditGuard.Variable.Dump

/-!
# The guard

The guard checks rules, tries them on single actions, and judges actions: it runs
the filters of a group and carries out the consequences of those that match.
-/

namespace EditGuard

open Variable (Memory Host)

/-- The guard: its settings and the patterns that it has read for single rules. -/
structure Guard where
  settings : Settings
  patterns : Pattern.Cache
deriving Inhabited

namespace Guard

/-- A guard with settings. -/
def ofSettings (settings : Settings) : Guard :=
  ⟨settings, .empty settings.patternCapacity⟩

/-! ## Single rules -/

/-- A rule text under the name by which messages quote it. -/
def filterSource (text : String) : Rule.Source :=
  ⟨"<filter>", text⟩

/-- An expression under the name by which messages quote it. -/
def expressionSource (text : String) : Rule.Source :=
  ⟨"<expression>", text⟩

/-- The doubts about a rule, or its first problem. -/
def check (text : String) : Except Rule.Finding (List Rule.Warning) :=
  (filterSource text).check

/-- Evaluate a rule and keep the patterns that it reads. -/
def evaluate {α : Type} (g : Guard) (source : Rule.Source) (budget : Budget)
    (run : Rule → Rule.Eval α) (memory : Memory) :
    Except Rule.Failure α × Guard × Memory :=
  match source.parse with
  | .error f => (.error (.finding f), g, memory)
  | .ok rule =>
      let start : Rule.State := ⟨memory, budget, g.patterns, .empty⟩
      let (outcome, finish) := (run rule).run.run start
      (outcome, { g with patterns := finish.patterns }, finish.memory)

/-- Whether a rule matches an action. -/
def matchesAction (g : Guard) (host : Host) (text : String) (memory : Memory) :
    Except Rule.Failure Bool × Guard × Memory :=
  g.evaluate (filterSource text) (.limited g.settings.conditionLimit)
    (Rule.matchesAction host) memory

/-- The variables that need no action, at a time. -/
def generalVariables (settings : Settings) (timestamp : String) : Variables :=
  .general timestamp settings.wikiName settings.wikiLanguage

/-- The value of an expression at a time, with no action. -/
def calculate (g : Guard) (timestamp text : String) : Except Rule.Failure Value × Guard :=
  let memory : Memory := ⟨generalVariables g.settings timestamp, []⟩
  let (outcome, g, _) :=
    g.evaluate (expressionSource text) .unlimited (Rule.evaluate .none) memory
  (outcome, g)

end Guard

/-! ## Judging actions -/

/-- What the guard needs from around it: the filters, the host that computes
variables, the platform, and the time. -/
structure Surroundings (σ : Type) where
  filters : FilterSource
  host : Host
  platform : Platform σ
  clock : Clock

/-- What may change while an action is judged. -/
structure Proceedings (σ : Type) where
  situation : Batch.Situation
  platform : σ
deriving Inhabited

/-- How an action was judged. -/
structure Judgement where
  batch : BatchResult
  execution : ExecutionResult
deriving Inhabited

namespace Judgement

/-- The filters that matched. -/
def matched (j : Judgement) : List FilterId :=
  j.batch.matched

/-- Whether the action is not to happen. -/
def vetoed (j : Judgement) : Bool :=
  j.execution.vetoed

end Judgement

namespace Guard

variable {σ : Type}

/-- The filters of given identities. -/
def filtersOf (filters : List Filter) (ids : List FilterId) : List Filter :=
  ids.filterMap fun id => filters.find? fun f => f.id == some id

/-- The dump for the log, if any filter matched and the variables can be
computed. -/
def dumpFor (settings : Settings) (host : Host) (matched : List Filter) (memory : Memory) :
    Option String × Memory :=
  if matched.isEmpty then (none, memory)
  else
    let (outcome, memory) :=
      (Variable.writeDump host settings.dumpedVariables settings.isProtected).run.run memory
    (outcome.toOption, memory)

/-- Whether the action is vetoed since its batch used up the conditions. -/
def vetoesExhaustion (settings : Settings) (r : BatchResult) : Bool :=
  r.exhausted && settings.exhaustionPolicy == .veto

/-- Judge an action: run the filters of a group, and carry out the consequences of
those that match. -/
def judge (settings : Settings) (around : Surroundings σ) (group : String) (action : Action)
    (p : Proceedings σ) : Except Fault Judgement × Proceedings σ :=
  match around.filters.filters group with
  | .error f => (.error f, p)
  | .ok filters =>
      let (batch, situation) :=
        Batch.run settings around.host around.clock filters p.situation
      let matched := filtersOf filters batch.matched
      let (dump, memory) := dumpFor settings around.host matched situation.memory
      let scene : Scene σ := ⟨p.platform, situation.tags⟩
      let (execution, scene) :=
        (Execution.run around.platform settings around.filters action matched dump).run scene
      let execution :=
        { execution with vetoed := execution.vetoed || vetoesExhaustion settings batch }
      (.ok ⟨batch, execution⟩,
        ⟨{ situation with memory, tags := scene.tags }, scene.platform⟩)

end Guard

end EditGuard
