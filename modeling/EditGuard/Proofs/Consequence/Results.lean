import EditGuard.Proofs.Consequence.Outcomes
import EditGuard.Proofs.Consequence.Protocol
import EditGuard.Proofs.Consequence.Veto

/-!
# What a run reports and logs

A run reports each of the consequences that it executes once: as taken, as failed, or not at
all if it did not apply.  The messages, the veto and the log are put together from the same
outcomes.  Hits are logged at last, whatever failed before.
-/

namespace EditGuard.Execution

variable {σ : Type}

/-! ## Each consequence is reported once -/

section

variable {settings : Settings} {source : FilterSource} {action : Action} {matched : List Filter}

end

/-! ## What a run logs -/

section

variable (p : Platform σ) (settings : Settings) (source : FilterSource) (action : Action)
  (matched : List Filter) (dump : Option String) (scene : Scene σ)

/-- What is put to the platform: questions, then the effects of what is executed, and at last
the hits, of each filter with what it has taken. -/
structure Logged (result : ExecutionResult) (questions effects : List PlatformCall) : Prop where
  asked : (pending p.recorded settings source action matched).run (scene.withRecord []) =
    (((pending p settings source action matched).run scene).1,
      ((pending p settings source action matched).run scene).2.withRecord questions)
  executed : ((carryOutAll p.recorded settings .nothing
      ((pending p settings source action matched).run scene).1).run
        (((pending p settings source action matched).run scene).2.withRecord questions)).2.platform.2 =
    questions ++ effects
  notBefore : ∀ call ∈ questions ++ effects, call.isLogging = false
  logged : (run p.recorded settings source action matched dump).run (scene.withRecord []) =
    (result, ((run p settings source action matched dump).run scene).2.withRecord
      (questions ++ effects ++ matched.flatMap (hitCalls action dump result)))

end

section

variable {settings : Settings} {source : FilterSource} {action : Action} {matched : List Filter}

theorem exists_logged (p : Platform σ) (distinct : (matched.filterMap Filter.id).Nodup)
    (dump : Option String) (scene : Scene σ) :
    ∃ questions effects, Logged p settings source action matched dump scene
      ((run p settings source action matched dump).run scene).1 questions effects := by
  obtain ⟨answer, asks⟩ := exists_asked settings source action p distinct scene
  obtain ⟨questions, mayAsk, asked⟩ := asks.pending_records []
  let now := ((pending p settings source action matched).run scene).2
  let cs := ((pending p settings source action matched).run scene).1
  obtain ⟨effects, mayDo, executed⟩ := carryOutAll_records p settings .nothing cs now questions
  rw [List.nil_append] at asked
  refine ⟨questions, effects, asked, congrArg (·.2.platform.2) executed, ?_, ?_⟩
  case refine_1 =>
    intro call mem
    rcases List.mem_append.mp mem with mem | mem
    · obtain ⟨f, _, c, _, asks, _⟩ := mayAsk call mem
      exact PlatformCall.isLogging_of_isQuestion asks.1
    · obtain ⟨c, _, may⟩ := mayDo call mem
      exact may.2.1
  case refine_2 =>
    have ran : (run p.recorded settings source action matched dump).run (scene.withRecord []) =
        (conclude p.recorded settings action matched dump cs).run (now.withRecord questions) := by
      rw [run_eq, StateT.run_bind, asked]
      rfl
    rw [ran, conclude, StateT.run_bind, executed]
    change ((((carryOutAll p settings .nothing cs).run now).1,
      ((logHits p.recorded action dump _ matched).run _).2) : _ × _) = _
    rw [run_logHits_recorded]
    rfl

end

end EditGuard.Execution
