import EditGuard.Consequence.Ledger
import EditGuard.Proofs.Consequence.Outcomes
import EditGuard.Proofs.Consequence.Survivors

/-!
# Actions that are not to happen

An action is vetoed if and only if a consequence that vetoes took effect.  A refusal that
counts always takes effect, unless its filter suppresses it.  A refusal does not count if its
filter also declares a block; then the action is vetoed if the block that is placed takes
effect.
-/

namespace EditGuard

variable {σ : Type}

namespace Execution

/-! ## Outcomes that veto -/

section

variable {p : Platform σ} {settings : Settings} {cs : List Consequence} {scene : Scene σ}

/-- On a platform that can always place blocks, all that are carried out take effect. -/
theorem placed_of_total (total : ∀ request s, ((p.block request).run.run s).1 = .ok true)
    {o : Consequence × Except Fault Bool} (mem : o ∈ outcomes p settings scene cs)
    (isBlock : o.1.kind = .block) : o.2 = .ok true := by
  obtain ⟨during, outcome⟩ := mem_outcomes mem
  rcases o with ⟨⟨subject, measure, suppresses⟩, o⟩
  cases measure with
  | block seconds blocksTalk =>
      have placed : ((Scene.lift (p.block (Consequence.blockRequest subject seconds
          blocksTalk))).run.run during).1 = .ok true := by
        rw [Scene.run_lift]
        exact total _ _
      exact outcome.trans placed
  | _ => cases isBlock

end

/-- An action is vetoed if and only if a consequence that vetoes took effect. -/
theorem vetoed_run_iff (p : Platform σ) (settings : Settings) (source : FilterSource)
    (action : Action) (matched : List Filter) (dump : Option String) (scene : Scene σ) :
    ((run p settings source action matched dump).run scene).1.vetoed = true ↔
      ∃ c, (c, .ok true) ∈ outcomesFor p settings source action matched scene ∧
        c.kind.vetoes = true := by
  rw [run_result, vetoed_report, List.any_eq_true]
  refine exists_congr fun c => and_congr_left fun _ => ?_
  exact mem_effective

/-! ## Consequences that reach execution -/

/-- No consequence of a filter asks to suppress the others, when they are asked in turn. -/
def Unsuppressed (p : Platform σ) (settings : Settings) : Scene σ → List Consequence → Prop
  | _, [] => True
  | scene, c :: cs =>
      if c.kind.isDisabler = true then
        c.answerAt p settings scene ≠ some true ∧
          Unsuppressed p settings (c.afterAsking p settings scene) cs
      else Unsuppressed p settings scene cs

instance decidableUnsuppressed (p : Platform σ) (settings : Settings) :
    ∀ (scene : Scene σ) (cs : List Consequence), Decidable (Unsuppressed p settings scene cs)
  | _, [] => .isTrue trivial
  | scene, c :: cs =>
      have := decidableUnsuppressed p settings (c.afterAsking p settings scene) cs
      have := decidableUnsuppressed p settings scene cs
      inferInstanceAs (Decidable (if c.kind.isDisabler = true then
        c.answerAt p settings scene ≠ some true ∧
          Unsuppressed p settings (c.afterAsking p settings scene) cs
      else Unsuppressed p settings scene cs))

section

variable {p : Platform σ} {settings : Settings} {source : FilterSource} {action : Action}

/-- If nothing is suppressed, then what was kept and what suppresses nothing is left. -/
theorem mem_askAll_of_unsuppressed {cs kept : List Consequence} {scene : Scene σ}
    (unsuppressed : Unsuppressed p settings scene cs) {c : Consequence}
    (mem : c ∈ kept ∨ c ∈ cs ∧ c.kind.isDisabler = false) :
    c ∈ ((askAll p settings kept cs).run scene).1 := by
  induction cs generalizing kept scene with
  | nil =>
      rcases mem with mem | ⟨mem, -⟩
      · exact mem
      · cases mem
  | cons d cs ih =>
      rw [run_askAll_cons]
      rw [Unsuppressed] at unsuppressed
      cases isDisabler : d.kind.isDisabler with
      | true =>
          rw [if_pos isDisabler] at unsuppressed
          obtain ⟨silent, unsuppressed⟩ := unsuppressed
          have other : c ∈ kept ∨ c ∈ cs ∧ c.kind.isDisabler = false := by
            rcases mem with mem | ⟨mem, plain⟩
            · exact .inl mem
            · rcases List.mem_cons.mp mem with rfl | mem
              · rw [isDisabler] at plain
                contradiction
              · exact .inr ⟨mem, plain⟩
          rw [if_pos rfl]
          cases answer : d.answerAt p settings scene with
          | none => exact ih unsuppressed other
          | some b =>
              cases b with
              | true => exact absurd answer silent
              | false => exact ih unsuppressed (other.imp_left (List.mem_append_left _))
      | false =>
          rw [if_neg (by rw [isDisabler]; exact Bool.false_ne_true)] at unsuppressed
          rw [if_neg Bool.false_ne_true]
          refine ih unsuppressed ?_
          rcases mem with mem | ⟨mem, plain⟩
          · exact .inl (List.mem_append_left _ mem)
          · rcases List.mem_cons.mp mem with rfl | mem
            · exact .inl (List.mem_append_right _ (List.mem_singleton.mpr rfl))
            · exact .inr ⟨mem, plain⟩

/-- What is left of a filter is left of a list of filters in which it stands. -/
theorem mem_ofFilters {before after : List Filter} {f : Filter} {scene : Scene σ}
    {c : Consequence}
    (mem : c ∈ ((ofFilter p settings source action f).run
      ((ofFilters p settings source action before).run scene).2).1) :
    c ∈ ((ofFilters p settings source action (before ++ f :: after)).run scene).1 := by
  induction before generalizing scene with
  | nil => exact List.mem_append_left _ mem
  | cons g before ih => exact List.mem_append_right _ (ih mem)

/-- What is no block is carried out. -/
theorem mem_pending {matched : List Filter} {scene : Scene σ} {c : Consequence}
    (mem : c ∈ ((ofFilters p settings source action matched).run scene).1)
    (plain : c.kind ≠ .block) :
    c ∈ ((pending p settings source action matched).run scene).1 :=
  List.mem_mergeSort.mpr (mem_dropOtherBlocks mem plain)

/-- If a block is left, then one is carried out. -/
theorem exists_block_pending {matched : List Filter} {scene : Scene σ} {c : Consequence}
    (mem : c ∈ ((ofFilters p settings source action matched).run scene).1)
    (blocks : c.kind = .block) :
    ∃ d ∈ ((pending p settings source action matched).run scene).1, d.kind = .block := by
  obtain ⟨d, kept, blocks⟩ := exists_block_keepLongestBlock ⟨c, mem, blocks⟩
  exact ⟨d, List.mem_mergeSort.mpr kept, blocks⟩

end

/-! ## The actions of a filter -/

/-- The actions that a filter may take: global filters may not take disabled ones. -/
def permitted (settings : Settings) (id : FilterId) (actions : Actions) : Actions :=
  if id.isGlobal then actions.filter fun a => !settings.disabledGlobalActions.contains a.1
  else actions

theorem effectiveActions_eq (settings : Settings) (id : FilterId) (actions : Actions) :
    effectiveActions settings id actions =
      if (permitted settings id actions).contains "block" then
        (permitted settings id actions).erase "disallow"
      else permitted settings id actions :=
  rfl

/-- No action but a refusal is made needless. -/
theorem find?_effectiveActions {settings : Settings} {id : FilterId} {actions : Actions}
    {name : String} (other : name ≠ "disallow") :
    (effectiveActions settings id actions).find? name =
      (permitted settings id actions).find? name := by
  rw [effectiveActions_eq]
  split
  · rw [Dictionary.find?_erase, if_neg other]
  · rfl

theorem mem_buildAll_of_build {actions : Actions} {s : Subject} {name : String}
    {params : List String} {c : Consequence} (declared : actions.find? name = some params)
    (built : Consequence.build name params s = .ok c) : c ∈ buildAll actions s := by
  rw [buildAll_eq, List.mem_mergeSort, buildEach, List.mem_filterMap]
  exact ⟨(name, params), Dictionary.mem_entries_iff.mpr declared, by rw [built]; rfl⟩

section

variable {settings : Settings} {id : FilterId} {actions : Actions} {s : Subject}

/-- Without a block a refusal counts. -/
theorem exists_disallow (declared : (permitted settings id actions).contains "disallow" = true)
    (noBlock : (permitted settings id actions).find? "block" = none) :
    ∃ message, (⟨s, .disallow message, none⟩ : Consequence) ∈
      buildAll (effectiveActions settings id actions) s := by
  obtain ⟨params, found⟩ := Option.isSome_iff_exists.mp declared
  have counts : (effectiveActions settings id actions).find? "disallow" = some params := by
    rw [effectiveActions_eq, Dictionary.contains, noBlock]
    exact found
  exact ⟨_, mem_buildAll_of_build counts rfl⟩

/-- A block whose parameters are accepted counts. -/
theorem mem_buildAll_of_block {params : List String} {c : Consequence}
    (declared : (permitted settings id actions).find? "block" = some params)
    (built : Consequence.build "block" params s = .ok c) :
    c ∈ buildAll (effectiveActions settings id actions) s := by
  refine mem_buildAll_of_build ?_ built
  rw [find?_effectiveActions (by decide)]
  exact declared

end

theorem kind_of_build_block {params : List String} {s : Subject} {c : Consequence}
    (built : Consequence.build "block" params s = .ok c) : c.kind = .block :=
  Consequence.kind_of_build built

section

variable {p : Platform σ} {settings : Settings} {source : FilterSource} {action : Action}
  {before : List Filter} {f : Filter} {scene : Scene σ}

/-- What a filter builds and does not suppress is left among the consequences of all. -/
theorem mem_ofFilters_of_unsuppressed (after : List Filter) {c : Consequence}
    (unsuppressed : Unsuppressed p settings
      ((ofFilters p settings source action before).run scene).2 (builtFor settings source action f))
    (mem : c ∈ builtFor settings source action f) (plain : c.kind.isDisabler = false) :
    c ∈ ((ofFilters p settings source action (before ++ f :: after)).run scene).1 := by
  apply mem_ofFilters
  rw [ofFilter_eq]
  exact mem_askAll_of_unsuppressed unsuppressed (.inr ⟨mem, plain⟩)

end

/-- If a filter that matched may refuse the action and suppresses nothing, then the action is
vetoed, provided that a block which the filter declares too has parameters that are accepted
and the block that is placed takes effect. -/
theorem vetoed_of_disallow (p : Platform σ) (settings : Settings) (source : FilterSource)
    (action : Action) (before after : List Filter) {f : Filter} {id : FilterId}
    {actions : Actions} (named : f.id = some id) (loaded : f.loadActions source = .ok actions)
    (declared : (permitted settings id actions).contains "disallow" = true) (scene : Scene σ)
    (unsuppressed : Unsuppressed p settings
      ((ofFilters p settings source action before).run scene).2
      (builtFor settings source action f))
    (blocks : ∀ params, (permitted settings id actions).find? "block" = some params →
      (∃ c, Consequence.build "block" params ⟨id, f.name, action⟩ = .ok c) ∧
        ∀ o ∈ outcomesFor p settings source action (before ++ f :: after) scene,
          o.1.kind = .block → o.2 = .ok true)
    (dump : Option String) :
    ((run p settings source action (before ++ f :: after) dump).run scene).1.vetoed = true := by
  have built : builtFor settings source action f =
      buildAll (effectiveActions settings id actions) ⟨id, f.name, action⟩ := by
    rw [builtFor, named, loaded]
  rw [vetoed_run_iff]
  cases block : (permitted settings id actions).find? "block" with
  | none =>
      obtain ⟨message, mem⟩ := exists_disallow (s := ⟨id, f.name, action⟩) declared block
      rw [← built] at mem
      have left := mem_ofFilters_of_unsuppressed after unsuppressed mem rfl
      obtain ⟨during, carriedOut⟩ := exists_mem_outcomes p settings
        ((pending p settings source action (before ++ f :: after)).run scene).2
        (mem_pending left nofun)
      exact ⟨_, carriedOut, rfl⟩
  | some params =>
      obtain ⟨⟨c, accepted⟩, placed⟩ := blocks params block
      have mem := mem_buildAll_of_block block accepted
      have isBlock := kind_of_build_block accepted
      rw [← built] at mem
      have left := mem_ofFilters_of_unsuppressed after unsuppressed mem
        (by rw [isBlock]; rfl)
      obtain ⟨d, isPending, isBlock⟩ := exists_block_pending left isBlock
      obtain ⟨during, carriedOut⟩ := exists_mem_outcomes p settings
        ((pending p settings source action (before ++ f :: after)).run scene).2 isPending
      have took := placed _ carriedOut isBlock
      rw [show ((d.carryOut p settings).run.run during).1 = .ok true from took] at carriedOut
      exact ⟨d, carriedOut, by rw [isBlock]; rfl⟩

/-- The actions of a filter that refuses edits and blocks their users. -/
def refusal (blockParams : List String) : Actions :=
  (Dictionary.empty.insert "block" blockParams).insert "disallow" []

def refusing (blockParams : List String) : Filter :=
  { Filter.ofRules 1 "true" with actions := .loaded (refusal blockParams) }

/-- A refusing filter with a block, after one whose warning suppresses nothing but its own
consequences. -/
theorem vetoed_of_disallow_blocked :
    let source := FilterStore.toSource ⟨[], .empty⟩
    let scene : Scene Ledger := ⟨.opened 0, .empty⟩
    let warning := (Filter.ofRules 2 "true").withAction "warn" []
    Unsuppressed Ledger.platform {} ((ofFilters Ledger.platform {} source default [warning]).run
        scene).2 (builtFor {} source default (refusing [])) ∧
      ((run Ledger.platform {} source default [warning, refusing []] none).run scene).1.vetoed =
        true := by
  intro source scene warning
  have unsuppressed : Unsuppressed Ledger.platform {} ((ofFilters Ledger.platform {} source default
      [warning]).run scene).2 (builtFor {} source default (refusing [])) := by
    decide +kernel
  have blockTaken : (permitted {} ⟨false, 1⟩ (refusal [])).find? "block" = some [] := by
    decide +kernel
  have named : (refusing []).id = some ⟨false, 1⟩ := rfl
  refine ⟨unsuppressed, vetoed_of_disallow Ledger.platform {} source default [warning] [] named rfl
    (by decide +kernel) scene unsuppressed ?_ none⟩
  intro params declared
  cases blockTaken.symm.trans declared
  exact ⟨⟨_, rfl⟩, fun o mem isBlock => placed_of_total (fun _ _ => rfl) mem isBlock⟩

/-- A platform that cannot place blocks. -/
def withoutBlocks : Platform Ledger :=
  { Ledger.platform with block := fun _ => throw (.other "no blocks") }

/-- A filter may refuse an action and suppress nothing without a veto, if the parameters of
its block are refused or its block cannot be placed. -/
theorem not_vetoed_of_failing_block :
    let source := FilterStore.toSource ⟨[], .empty⟩
    let scene : Scene Ledger := ⟨.opened 0, .empty⟩
    ((permitted {} ⟨false, 1⟩ (refusal ["week"])).contains "disallow" = true ∧
      Unsuppressed Ledger.platform {} scene (builtFor {} source default (refusing ["week"])) ∧
      ((run Ledger.platform {} source default [refusing ["week"]] none).run scene).1.vetoed =
        false) ∧
    (permitted {} ⟨false, 1⟩ (refusal [])).contains "disallow" = true ∧
      Unsuppressed withoutBlocks {} scene (builtFor {} source default (refusing [])) ∧
      ((run withoutBlocks {} source default [refusing []] none).run scene).1.vetoed = false := by
  decide +kernel

end Execution

end EditGuard
