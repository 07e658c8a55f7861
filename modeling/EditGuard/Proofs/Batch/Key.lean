import EditGuard.Proofs.Batch.Replay
import EditGuard.Proofs.Digest
import EditGuard.Proofs.FilterId
import EditGuard.Proofs.Value.Settling
import Mathlib.Data.Set.Function

/-!
# What the key of a verdict tells

The key of a verdict is a digest of a message, which is made of the variables and the rules.
Among messages without collisions of digests the key tells the variables, except that null
stands for what is undefined and for the numbers that are not finite, and the filters with
their rules, unless a rule contains a zero character.
-/

namespace EditGuard.Batch

/-! ## The message of a key -/

/-- The variables that have values, with null for what a document has no word for. -/
def settledValues (vs : Variables) : List (String × Value) :=
  vs.values.map fun e => (e.1, e.2.settled)

/-- The identities and rules of filters. -/
def identified (fs : List Filter) : List (FilterId × String) :=
  fs.filterMap fun f => f.id.map fun id => (id, f.rules)

/-- The document of the variables that have values. -/
def valuesJson (vs : Variables) : Json :=
  .object (vs.values.map fun e => (e.1, e.2.toJson))

/-- The texts of identities and rules. -/
def ruleParts (rules : List (FilterId × String)) : List String :=
  rules.flatMap fun r => [r.1.text, r.2]

/-- What a key is the digest of. -/
def keyMessage (vs : Variables) (fs : List Filter) : List UInt8 :=
  Digest.terminated ((valuesJson vs).compact :: ruleParts (identified fs))

theorem ruleParts_identified (fs : List Filter) :
    ruleParts (identified fs) = fs.flatMap fun f =>
      match f.id with
      | some id => [id.text, f.rules]
      | none => [] := by
  induction fs with
  | nil => rfl
  | cons f fs ih =>
      rw [List.flatMap_cons, ← ih]
      cases known : f.id with
      | none =>
          have skipped : identified (f :: fs) = identified fs := by
            rw [identified, List.filterMap_cons, known]
            rfl
          rw [skipped]
          rfl
      | some id =>
          have kept : identified (f :: fs) = (id, f.rules) :: identified fs := by
            rw [identified, List.filterMap_cons, known]
            rfl
          rw [kept]
          rfl

theorem keyOf_eq (vs : Variables) (fs : List Filter) :
    keyOf vs fs = Digest.ofParts ((valuesJson vs).compact :: ruleParts (identified fs)) := by
  rw [ruleParts_identified]
  rfl

/-- The key depends on the message only. -/
theorem keyOf_eq_of_keyMessage_eq {vs ws : Variables} {fs gs : List Filter}
    (same : keyMessage vs fs = keyMessage ws gs) : keyOf vs fs = keyOf ws gs := by
  have digests : Digest.sha256 (keyMessage vs fs) = Digest.sha256 (keyMessage ws gs) :=
    congrArg Digest.sha256 same
  rw [keyOf_eq, keyOf_eq]
  exact congrArg (fun ws => String.ofList (ws.flatMap Digest.hexWord)) digests

/-! ## What the message tells -/

theorem proper_valuesJson (vs : Variables) : (valuesJson vs).Proper := by
  refine .object fun member mem => ?_
  obtain ⟨e, -, rfl⟩ := List.mem_map.mp mem
  exact Value.proper_toJson e.2

theorem zero_notMem_valuesJson (vs : Variables) : '\x00' ∉ (valuesJson vs).compact.toList := by
  rw [Json.compact, String.toList_ofList]
  exact (proper_valuesJson vs).zero_notMem

theorem settledValues_eq_of_valuesJson_eq {vs ws : Variables}
    (same : valuesJson vs = valuesJson ws) : settledValues vs = settledValues ws := by
  have members := Json.object.inj same
  have values : (vs.values.map fun e => (e.1, e.2.toJson)).map (fun m => (m.1, Value.ofJson m.2)) =
      (ws.values.map fun e => (e.1, e.2.toJson)).map (fun m => (m.1, Value.ofJson m.2)) :=
    congrArg _ members
  rw [List.map_map, List.map_map] at values
  simpa only [settledValues, Function.comp_def, Value.ofJson_toJson] using values

theorem ruleParts_inj {rules others : List (FilterId × String)}
    (same : ruleParts rules = ruleParts others) : rules = others := by
  induction rules generalizing others with
  | nil =>
      cases others with
      | nil => rfl
      | cons other more => cases same
  | cons rule more ih =>
      cases others with
      | nil => cases same
      | cons other moreOthers =>
          obtain ⟨ids, tail⟩ := List.cons.inj same
          obtain ⟨rules, rest⟩ := List.cons.inj tail
          rw [Prod.ext (FilterId.text_inj ids) rules, ih rest]

/-- No rule of filters contains a zero character. -/
def ZeroFree (fs : List Filter) : Prop :=
  ∀ f ∈ fs, '\x00' ∉ f.rules.toList

theorem ZeroFree.ruleParts {fs : List Filter} (zeroFree : ZeroFree fs) :
    ∀ part ∈ ruleParts (identified fs), '\x00' ∉ part.toList := by
  intro part mem
  obtain ⟨rule, known, inside⟩ := List.mem_flatMap.mp mem
  obtain ⟨f, member, found⟩ := List.mem_filterMap.mp known
  obtain ⟨id, -, rfl⟩ := Option.map_eq_some_iff.mp found
  rcases List.mem_pair.mp inside with rfl | rfl
  · exact id.zero_notMem_text
  · exact zeroFree f member

/-- Nothing in the values of variables is undefined or a number that is not finite. -/
def Settled (vs : Variables) : Prop :=
  ∀ e ∈ vs.values, e.2.settled = e.2

theorem Settled.settledValues {vs : Variables} (settled : Settled vs) :
    settledValues vs = vs.values := by
  have each : ∀ e ∈ vs.values, (e.1, e.2.settled) = id e := fun e mem =>
    Prod.ext rfl (settled e mem)
  rw [Batch.settledValues, List.map_congr_left each, List.map_id]

/-- What two batches have in common if the keys of their verdicts do not tell them apart. -/
structure Alike (vs ws : Variables) (fs gs : List Filter) : Prop where
  settledValues : settledValues vs = settledValues ws
  values : Settled vs → Settled ws → vs.values = ws.values
  rules : ZeroFree fs → ZeroFree gs → identified fs = identified gs

/-- What the message of a key tells. -/
theorem alike_of_keyMessage_eq {vs ws : Variables} {fs gs : List Filter}
    (same : keyMessage vs fs = keyMessage ws gs) : Alike vs ws fs gs := by
  obtain ⟨documents, rest⟩ := Digest.terminated_cons_inj (zero_notMem_valuesJson vs)
    (zero_notMem_valuesJson ws) same
  have values : settledValues vs = settledValues ws := settledValues_eq_of_valuesJson_eq
    (Json.compact_inj (proper_valuesJson vs) (proper_valuesJson ws) documents)
  constructor
  · exact values
  · intro settled settledOther
    rw [← settled.settledValues, ← settledOther.settledValues, values]
  · intro zeroFree zeroFreeOther
    exact ruleParts_inj (Digest.terminated_inj zeroFree.ruleParts zeroFreeOther.ruleParts rest)

/-- Among messages without collisions, what the key of a verdict tells. -/
theorem alike_of_keyOf_eq {messages : Set (List UInt8)}
    (collisionFree : Set.InjOn Digest.sha256 messages) {vs ws : Variables} {fs gs : List Filter}
    (left : keyMessage vs fs ∈ messages) (right : keyMessage ws gs ∈ messages)
    (same : keyOf vs fs = keyOf ws gs) : Alike vs ws fs gs := by
  rw [keyOf_eq, keyOf_eq] at same
  exact alike_of_keyMessage_eq (collisionFree left right (Digest.sha256_eq_of_ofParts_eq same))

/-! ## Verdicts that are served -/

namespace Submission

/-- The filters that are evaluated, in order. -/
def evaluated (c : Submission) : List Filter :=
  (candidates c.filters).map Prod.snd

/-- What the key of a run is the digest of. -/
def message (c : Submission) : List UInt8 :=
  keyMessage c.memory.vars c.evaluated

/-- Two runs are not told apart by their messages. -/
def Alike (c d : Submission) : Prop :=
  Batch.Alike c.memory.vars d.memory.vars c.evaluated d.evaluated

end Submission

variable {settings : Settings} {cache : VerdictCache} {cs : List Submission}

/-- What is kept after a run was kept before it or is its verdict. -/
theorem Submission.find?_of_find?_keeps {c : Submission} {k : String} {v : Verdict}
    (kept : (c.keeps settings cache).find? k = some v) :
    cache.find? k = some v ∨
      c.key = k ∧ (c.run settings cache).1.cached = false ∧
        verdictOf (c.run settings cache).1 = v := by
  cases found : cache.find? c.key with
  | some _ =>
      rw [keeps_of_hit found] at kept
      exact .inl kept
  | none =>
      rw [keeps, run_of_miss found] at kept
      rw [run_of_miss found]
      dsimp only [Option.getD_some] at kept
      split at kept
      · exact .inl kept
      · rw [Dictionary.find?_insert] at kept
        split at kept
        · next same => exact .inr ⟨same.symm, rfl, Option.some.inj kept⟩
        · exact .inl kept

namespace Episode

theorem submission_mem {e : Episode} (mem : e ∈ history settings cache cs) :
    e.submission ∈ cs := by
  induction cs generalizing cache with
  | nil => cases mem
  | cons c cs ih =>
      rcases List.mem_cons.mp mem with rfl | later
      · exact List.mem_cons_self
      · exact List.mem_cons_of_mem c (ih later)

/-- A verdict that is kept before a run was kept at first or comes from an earlier run. -/
theorem exists_of_find? {earlier later : List Episode} {e : Episode}
    (split : history settings cache cs = earlier ++ e :: later) {k : String} {v : Verdict}
    (kept : e.before.find? k = some v) :
    cache.find? k = some v ∨
      ∃ d ∈ earlier, d.key = k ∧ d.result.cached = false ∧ d.verdict = v := by
  induction cs generalizing cache earlier with
  | nil => exact absurd split.symm (List.append_ne_nil_of_right_ne_nil _ (List.cons_ne_nil _ _))
  | cons c cs ih =>
      cases earlier with
      | nil =>
          obtain ⟨rfl, -⟩ := List.cons.inj split
          exact .inl kept
      | cons first others =>
          obtain ⟨rfl, rest⟩ := List.cons.inj split
          rcases ih rest with atFirst | ⟨d, mem, facts⟩
          · rcases Submission.find?_of_find?_keeps atFirst with
              before | ⟨sameKey, evaluated, verdict⟩
            · exact .inl before
            · exact .inr ⟨_, List.mem_cons_self, sameKey, evaluated, verdict⟩
          · exact .inr ⟨d, List.mem_cons_of_mem _ mem, facts⟩

/-- A run that is answered from the cache has the verdict that was kept under its key. -/
theorem find?_of_cached {e : Episode} (mem : e ∈ history settings cache cs)
    (cached : e.result.cached = true) : e.before.find? e.key = some e.verdict := by
  have ran := run_eq mem
  have hit : (e.submission.run settings e.before).1.cached = true := by
    rw [ran]
    exact cached
  obtain ⟨v, found⟩ := Submission.cached_run_iff.mp hit
  have answered : e.submission.run settings e.before = _ := Submission.run_of_hit found
  rw [ran] at answered
  rw [verdict, (Prod.mk.inj answered).1, verdictOf_resultOf]
  exact found

end Episode

/-- Among messages without collisions of digests, equal keys have equal variables, up to what
documents have no word for, and, where no rule contains a zero character, the same filters
with the same rules.  So every verdict that is served in a history is that of an earlier run
with such variables and filters, which was evaluated. -/
theorem keyOf_separates {messages : Set (List UInt8)}
    (collisionFree : Set.InjOn Digest.sha256 messages) :
    (∀ (vs ws : Variables) (fs gs : List Filter), keyMessage vs fs ∈ messages →
      keyMessage ws gs ∈ messages → keyOf vs fs = keyOf ws gs → Alike vs ws fs gs) ∧
    ∀ (settings : Settings) (cs : List Submission), (∀ c ∈ cs, c.message ∈ messages) →
      ∀ earlier e later, history settings .empty cs = earlier ++ e :: later →
        e.result.cached = true →
          ∃ d ∈ earlier, d.result.cached = false ∧ d.verdict = e.verdict ∧
            d.submission.Alike e.submission := by
  have told (vs ws : Variables) (fs gs : List Filter) (left : keyMessage vs fs ∈ messages)
      (right : keyMessage ws gs ∈ messages) (same : keyOf vs fs = keyOf ws gs) :
      Alike vs ws fs gs := alike_of_keyOf_eq collisionFree left right same
  refine ⟨told, ?_⟩
  intro settings cs inMessages earlier e later split cached
  have mem : e ∈ history settings .empty cs := by
    rw [split]
    exact List.mem_append_right _ List.mem_cons_self
  rcases Episode.exists_of_find? split (Episode.find?_of_cached mem cached) with
    atFirst | ⟨d, before, sameKey, evaluated, verdict⟩
  · rw [Dictionary.find?_empty] at atFirst
    cases atFirst
  · have memOther : d ∈ history settings .empty cs := by
      rw [split]
      exact List.mem_append_left _ before
    exact ⟨d, before, evaluated, verdict, told _ _ _ _
      (inMessages _ (Episode.submission_mem memOther)) (inMessages _ (Episode.submission_mem mem))
      sameKey⟩

/-- An edit by a user whose name is a value, judged by filters. -/
def namedEdit (name : Value) (rules : List String) : Submission :=
  ⟨.none, id, rules.zipIdx.map fun r => Filter.ofRules (r.2 + 1) r.1,
    ⟨Variables.set .empty "user_name" name, []⟩, .empty⟩

/-- Among three edits the key of the third is that of the second, which has a name that is
undefined and not null, and not that of the first, and so is its verdict. -/
theorem keyOf_separates_edits :
    let rules := ["user_name === null"]
    let ann := namedEdit (.text "Ann") rules
    let unknown := namedEdit .undefined rules
    let nameless := namedEdit .null rules
    Alike unknown.memory.vars nameless.memory.vars unknown.evaluated nameless.evaluated ∧
      ∃ first second served,
        history {} .empty [ann, unknown, nameless] = [first, second, served] ∧
        served.result.cached = true ∧
        ∃ d ∈ [first, second], d.result.cached = false ∧ d.verdict = served.verdict ∧
          d.submission.Alike served.submission := by
  intro rules ann unknown nameless
  have sameMessage : unknown.message = nameless.message := by decide +kernel
  have sameKey : unknown.key = nameless.key := keyOf_eq_of_keyMessage_eq sameMessage
  have differ : Digest.sha256 ann.message ≠ Digest.sha256 nameless.message := by decide +kernel
  have collisionFree : Set.InjOn Digest.sha256 {ann.message, nameless.message} :=
    Set.injOn_pair.mpr fun same => absurd same differ
  have inMessages : ∀ c ∈ [ann, unknown, nameless],
      c.message ∈ ({ann.message, nameless.message} : Set (List UInt8)) := by
    simp [sameMessage]
  have cached : (nameless.run {} (unknown.keeps {} (ann.keeps {} .empty))).1.cached = true :=
    congrArg BatchResult.cached (Submission.run_of_key_eq rfl sameKey)
  have separates := keyOf_separates collisionFree
  refine ⟨separates.1 _ _ _ _ (inMessages unknown (by simp)) (inMessages nameless (by simp))
    sameKey, _, _, _, rfl, cached, ?_⟩
  exact separates.2 {} [ann, unknown, nameless] inMessages [_, _] _ [] rfl cached

/-- A verdict on a name that is undefined is served for a name that is null, although the rule
tells these.  Nor does the key tell a number that is none from null, and where a rule ends
if it contains zero characters. -/
theorem keyOf_merges :
    let rules := ["user_name === null"]
    let unknown := namedEdit .undefined rules
    let nameless := namedEdit .null rules
    let notNumber := namedEdit (.float (Float.ofBits 0x7ff8000000000000)) rules
    (∃ first served, history {} .empty [unknown, nameless] = [first, served] ∧
        served.result.cached = true ∧ served.result.matched = []) ∧
      (nameless.evaluation {}).1.matched = [⟨false, 1⟩] ∧
      notNumber.key = nameless.key ∧
      keyOf .empty [Filter.ofRules 1 "a\x002\x00b"] =
        keyOf .empty [Filter.ofRules 1 "a", Filter.ofRules 2 "b"] := by
  intro rules unknown nameless notNumber
  have sameKey : unknown.key = nameless.key := keyOf_eq_of_keyMessage_eq (by decide +kernel)
  have evaluated : unknown.run {} .empty = _ := Submission.run_of_miss rfl
  have again : (nameless.run {} (unknown.keeps {} .empty)).1 = _ :=
    Submission.run_of_key_eq rfl sameKey
  refine ⟨⟨_, _, rfl, ?_, ?_⟩, by decide +kernel, keyOf_eq_of_keyMessage_eq (by decide +kernel),
    keyOf_eq_of_keyMessage_eq (by decide +kernel)⟩
  · exact congrArg BatchResult.cached again
  · have matched : (unknown.evaluation {}).1.matched = [] := by decide +kernel
    refine (congrArg BatchResult.matched again).trans ?_
    rw [evaluated]
    exact matched

end EditGuard.Batch
