import EditGuard.Proofs.Variable.Forcing
import Mathlib.Data.Finset.Basic

/-!
# Variables in progress

While a variable is being computed, its name is marked, and the mark is taken away
afterwards, however the computation ends.  The computation may read variables itself, and
go on when such a read has failed.  This file gives the steps of a read with its marks,
shows that they are those of the read that keeps no marks, and derives from them what a
read may change: nothing but pending variables, each of which is computed with success
once at most.
-/

namespace EditGuard.Variable

/-! ## Lookups -/

/-- The memory, and the names of the variables that are being computed. -/
structure Lookup where
  memory : Memory
  busy : Finset String

namespace Lookup

/-- What is known of a variable, by the name under which it is kept. -/
def find? (l : Lookup) (name : String) : Option Entry :=
  l.memory.vars.find? name

/-- Begin to compute a variable, for which the host may be asked. -/
def start (host : Host) (c : Call) (name : String) (l : Lookup) : Lookup :=
  ⟨(scriptFor host c l.memory).2, insert name l.busy⟩

/-- Take the mark of a variable away. -/
def stop (name : String) (l : Lookup) : Lookup :=
  ⟨l.memory, l.busy.erase name⟩

/-- Give a variable its value. -/
def give (name : String) (v : Value) (l : Lookup) : Lookup :=
  ⟨{ l.memory with vars := l.memory.vars.insert name (.value v) }, l.busy⟩

/-- The pending variables that are not being computed. -/
def idle (l : Lookup) : List String :=
  l.memory.vars.pendingNames.filter fun name => name ∉ l.busy

theorem find?_start (host : Host) (c : Call) (name : String) (l : Lookup) (other : String) :
    (l.start host c name).find? other = l.find? other := by
  rw [find?, start, scriptFor_vars, find?]

theorem find?_give (name : String) (v : Value) (l : Lookup) (other : String) :
    (l.give name v).find? other = if other = name then some (.value v) else l.find? other :=
  Dictionary.find?_insert l.memory.vars name other (.value v)

end Lookup

/-- What a read has come to: the name under which it has looked, its outcome, and whether the
variable was computed for it. -/
structure Answer where
  name : String
  outcome : Except Fault Value
  computed : Bool

/-- A variable was computed with success. -/
def Answer.Gives (a : Answer) (v : Value) : Prop :=
  a.computed = true ∧ a.outcome = .ok v

mutual

/-- A read takes a lookup to another one.  The trace lists the reads that have ended on the
way, the read itself being the last one. -/
inductive Gets (host : Host) :
    Lookup → String → ReadMode → Except Fault Value → Lookup → List Answer → Prop
  | value {l name mode v} (found : l.find? (mode.target name) = some (.value v)) :
      Gets host l name mode (.ok v) l [⟨mode.target name, .ok v, false⟩]
  | unset {l name} (found : l.find? (ReadMode.strict.target name) = none) :
      Gets host l name .strict (.error (.defect (.unset (ReadMode.strict.target name)))) l
        [⟨ReadMode.strict.target name,
          .error (.defect (.unset (ReadMode.strict.target name))), false⟩]
  | undefined {l name mode} (found : l.find? (mode.target name) = none)
      (notStrict : mode ≠ .strict) :
      Gets host l name mode (.ok .undefined) l [⟨mode.target name, .ok .undefined, false⟩]
  | circular {l name mode c} (found : l.find? (mode.target name) = some (.pending c))
      (busy : mode.target name ∈ l.busy) :
      Gets host l name mode (.error (.defect (.circular (mode.target name)))) l
        [⟨mode.target name, .error (.defect (.circular (mode.target name))), false⟩]
  | computed {l name mode c v after trace}
      (found : l.find? (mode.target name) = some (.pending c))
      (notBusy : mode.target name ∉ l.busy)
      (runs : Runs host (scriptFor host c l.memory).1 (l.start host c (mode.target name)) (.ok v)
        after trace) :
      Gets host l name mode (.ok v) ((after.stop (mode.target name)).give (mode.target name) v)
        (trace ++ [⟨mode.target name, .ok v, true⟩])
  | failed {l name mode c f after trace}
      (found : l.find? (mode.target name) = some (.pending c))
      (notBusy : mode.target name ∉ l.busy)
      (runs : Runs host (scriptFor host c l.memory).1 (l.start host c (mode.target name))
        (.error f) after trace) :
      Gets host l name mode (.error f) (after.stop (mode.target name))
        (trace ++ [⟨mode.target name, .error f, true⟩])

/-- A script takes a lookup to another one by its reads. -/
inductive Runs (host : Host) :
    Script → Lookup → Except Fault Value → Lookup → List Answer → Prop
  | done {l v} : Runs host (.done v) l (.ok v) l []
  | fail {l f} : Runs host (.fail f) l (.error f) l []
  | read {l name mode next outcome middle result after trace later}
      (first : Gets host l name mode outcome middle trace)
      (rest : Runs host (next outcome) middle result after later) :
      Runs host (.read name mode next) l result after (trace ++ later)

end

/-- Reads one after the other. -/
inductive GetsAll (host : Host) :
    Lookup → List (String × ReadMode) → List (Except Fault Value) → Lookup → List Answer → Prop
  | nil {l} : GetsAll host l [] [] l []
  | cons {l name mode reads outcome outcomes middle after trace later}
      (first : Gets host l name mode outcome middle trace)
      (rest : GetsAll host middle reads outcomes after later) :
      GetsAll host l ((name, mode) :: reads) (outcome :: outcomes) after (trace ++ later)

/-! ## What changes on the way -/

/-- The trace `trace` accounts for all that has changed between two lookups. -/
structure Account (before after : Lookup) (trace : List Answer) : Prop where
  busy : after.busy = before.busy
  /-- What was not computed is as it was. -/
  kept : ∀ name, (∀ a ∈ trace, ∀ v, a.Gives v → a.name ≠ name) →
    after.find? name = before.find? name
  /-- What was computed was pending and nobody was computing it; now it has its value. -/
  given : ∀ a ∈ trace, ∀ v, a.Gives v → (∃ c, before.find? a.name = some (.pending c)) ∧
    a.name ∉ before.busy ∧ after.find? a.name = some (.value v)
  /-- A variable that has a value is not computed. -/
  known : ∀ a ∈ trace, ∀ v, before.find? a.name = some (.value v) →
    a.outcome = .ok v ∧ a.computed = false
  /-- Nor is it after it was computed. -/
  once : trace.Pairwise fun a b => ∀ v, a.Gives v → b.name = a.name →
    b.outcome = .ok v ∧ b.computed = false

namespace Account

variable {before middle after : Lookup} {trace later : List Answer} {name : String} {c : Call}
  {v : Value}

theorem nil : Account before before [] := by
  constructor <;> simp

/-- A read that has computed nothing, or has failed to, changes nothing. -/
theorem single {a : Answer} (gives : ∀ v, ¬a.Gives v)
    (known : ∀ v, before.find? a.name = some (.value v) → a.outcome = .ok v ∧ a.computed = false) :
    Account before before [a] where
  busy := rfl
  kept _ _ := rfl
  given b mem v gave := by
    obtain rfl := List.mem_singleton.mp mem
    exact absurd gave (gives v)
  known b mem v found := by
    obtain rfl := List.mem_singleton.mp mem
    exact known v found
  once := List.pairwise_singleton _ _

/-- A read that computes nothing changes nothing. -/
theorem read {outcome : Except Fault Value}
    (known : ∀ v, before.find? name = some (.value v) → outcome = .ok v) :
    Account before before [⟨name, outcome, false⟩] :=
  .single (fun v gives => by cases gives.1) fun v found => ⟨known v found, rfl⟩

/-- A pending variable that nobody is computing is given its value. -/
theorem give (found : before.find? name = some (.pending c)) (notBusy : name ∉ before.busy)
    (v : Value) : Account before (before.give name v) [⟨name, .ok v, true⟩] where
  busy := rfl
  kept other different := by
    have notSame : other ≠ name := by
      rintro rfl
      exact different _ (List.mem_singleton.mpr rfl) v ⟨rfl, rfl⟩ rfl
    exact (Lookup.find?_give name v before other).trans (if_neg notSame)
  given a mem w gives := by
    obtain rfl := List.mem_singleton.mp mem
    obtain ⟨-, same⟩ := gives
    cases same
    exact ⟨⟨c, found⟩, notBusy, (Lookup.find?_give name v before name).trans (if_pos rfl)⟩
  known a mem w value := by
    obtain rfl := List.mem_singleton.mp mem
    rw [found] at value
    cases value
  once := List.pairwise_singleton _ _

/-- A value is kept. -/
theorem value (account : Account before after trace)
    (found : before.find? name = some (.value v)) : after.find? name = some (.value v) := by
  rw [account.kept name ?_, found]
  rintro a mem w gives rfl
  obtain ⟨⟨c, pending⟩, -⟩ := account.given a mem w gives
  rw [found] at pending
  cases pending

/-- A variable that is being computed is as it was. -/
theorem of_busy (account : Account before after trace) (busy : name ∈ before.busy) :
    after.find? name = before.find? name := by
  apply account.kept
  rintro a mem w gives rfl
  exact (account.given a mem w gives).2.1 busy

/-- Nothing changes but pending variables, which get values. -/
theorem settles (account : Account before after trace) :
    Settles before.memory.vars after.memory.vars := by
  intro name
  by_cases computed : ∃ a ∈ trace, ∃ v, a.Gives v ∧ a.name = name
  · obtain ⟨a, mem, v, gives, rfl⟩ := computed
    obtain ⟨⟨c, pending⟩, -, value⟩ := account.given a mem v gives
    exact .inr ⟨c, v, pending, value⟩
  · left
    apply account.kept
    intro a mem v gives same
    exact computed ⟨a, mem, v, gives, same⟩

theorem append (first : Account before middle trace) (second : Account middle after later) :
    Account before after (trace ++ later) where
  busy := second.busy.trans first.busy
  kept name other := by
    rw [second.kept name fun a mem => other a (List.mem_append_right _ mem)]
    exact first.kept name fun a mem => other a (List.mem_append_left _ mem)
  given a mem v gives := by
    rcases List.mem_append.mp mem with mem | mem
    · obtain ⟨pending, notBusy, found⟩ := first.given a mem v gives
      exact ⟨pending, notBusy, second.value found⟩
    · obtain ⟨⟨c, pending⟩, notBusy, found⟩ := second.given a mem v gives
      rw [first.busy] at notBusy
      exact ⟨⟨c, first.settles.pending pending⟩, notBusy, found⟩
  known a mem v found := by
    rcases List.mem_append.mp mem with mem | mem
    · exact first.known a mem v found
    · exact second.known a mem v (first.value found)
  once := by
    refine List.pairwise_append.mpr ⟨first.once, second.once, ?_⟩
    intro a mem b memLater v gives same
    obtain ⟨-, -, found⟩ := first.given a mem v gives
    exact second.known b memLater v (same ▸ found)

/-- While a variable is marked, its own computation changes the others only. -/
theorem stop {host : Host} (account : Account (before.start host c name) after trace)
    (notBusy : name ∉ before.busy) : Account before (after.stop name) trace where
  busy := by
    rw [Lookup.stop, account.busy, Lookup.start, Finset.erase_insert notBusy]
  kept other different :=
    (account.kept other different).trans (Lookup.find?_start host c name before other)
  given a mem v gives := by
    obtain ⟨⟨d, pending⟩, notStarted, found⟩ := account.given a mem v gives
    rw [Lookup.find?_start] at pending
    exact ⟨⟨d, pending⟩, fun mem => notStarted (Finset.mem_insert_of_mem mem), found⟩
  known a mem v found :=
    account.known a mem v ((Lookup.find?_start host c name before a.name).trans found)
  once := account.once

end Account

/-- The computation of a pending variable is accounted for up to where its mark is taken away,
and the variable is pending there still. -/
theorem Account.of_start {host : Host} {before after : Lookup} {trace : List Answer}
    {name : String} {c : Call} (account : Account (before.start host c name) after trace)
    (found : before.find? name = some (.pending c)) (notBusy : name ∉ before.busy) :
    Account before (after.stop name) trace ∧ (after.stop name).find? name = some (.pending c) ∧
      name ∉ (after.stop name).busy := by
  refine ⟨account.stop notBusy, ?_, Finset.notMem_erase name _⟩
  have kept := account.of_busy (Finset.mem_insert_self name before.busy)
  exact kept.trans ((Lookup.find?_start host c name before name).trans found)

mutual

theorem Gets.account {host : Host} {l after : Lookup} {name : String} {mode : ReadMode}
    {outcome : Except Fault Value} {trace : List Answer}
    (gets : Gets host l name mode outcome after trace) : Account l after trace := by
  match gets with
  | .value found =>
      refine .read fun w value => ?_
      cases found.symm.trans value
      rfl
  | .unset found => exact .read fun w value => by cases found.symm.trans value
  | .undefined found notStrict => exact .read fun w value => by cases found.symm.trans value
  | .circular found busy => exact .read fun w value => by cases found.symm.trans value
  | .computed found notBusy runs =>
      obtain ⟨account, pending, idle⟩ := runs.account.of_start found notBusy
      exact account.append (.give pending idle _)
  | .failed found notBusy runs =>
      obtain ⟨account, pending, idle⟩ := runs.account.of_start found notBusy
      refine account.append (.single (fun w gives => by cases gives.2) ?_)
      intro w value
      cases pending.symm.trans value
termination_by structural gets

theorem Runs.account {host : Host} {script : Script} {l after : Lookup}
    {outcome : Except Fault Value} {trace : List Answer}
    (runs : Runs host script l outcome after trace) : Account l after trace := by
  match runs with
  | .done => exact .nil
  | .fail => exact .nil
  | .read first rest => exact first.account.append rest.account
termination_by structural runs

end

/-! ## The same reads without marks -/

/-- The names that a read without marks is given, for a lookup: among the pending variables,
those that are not being computed. -/
structure Idles (l : Lookup) (idle : List String) : Prop where
  distinct : idle.Nodup
  mem_iff : ∀ {name c}, l.find? name = some (.pending c) → (name ∈ idle ↔ name ∉ l.busy)

namespace Idles

variable {l after : Lookup} {idle : List String} {trace : List Answer}

theorem self (l : Lookup) : Idles l l.idle where
  distinct := (nodup_pendingNames _).filter _
  mem_iff {name c} found := by
    rw [Lookup.idle, List.mem_filter, decide_eq_true_eq]
    exact and_iff_right (mem_pendingNames.mpr ⟨c, found⟩)

theorem start (idles : Idles l idle) (host : Host) (c : Call) (name : String) :
    Idles (l.start host c name) (idle.erase name) where
  distinct := idles.distinct.erase name
  mem_iff {other d} found := by
    rw [Lookup.find?_start] at found
    rw [idles.distinct.mem_erase_iff, idles.mem_iff found, Lookup.start, Finset.mem_insert,
      not_or]

theorem of_account (idles : Idles l idle) (account : Account l after trace) : Idles after idle where
  distinct := idles.distinct
  mem_iff found := by
    rw [account.busy, idles.mem_iff (account.settles.pending found)]

end Idles

mutual

/-- A read has the outcome and leaves the memory of the read without marks. -/
theorem Gets.run_eq {host : Host} {l after : Lookup} {name : String} {mode : ReadMode}
    {outcome : Except Fault Value} {trace : List Answer} {idle : List String}
    (gets : Gets host l name mode outcome after trace) (idles : Idles l idle) :
    (readKept host idle (mode.target name) mode).run.run l.memory = (outcome, after.memory) := by
  rw [run_readKept]
  match gets with
  | .value found =>
      rw [Lookup.find?] at found
      rw [found]
  | .unset found =>
      rw [Lookup.find?] at found
      rw [found]
      rfl
  | .undefined found notStrict =>
      rw [Lookup.find?] at found
      rw [found]
      simp only [if_neg notStrict]
  | .circular found busy =>
      have notIdle : ¬mode.target name ∈ idle := fun mem => (idles.mem_iff found).mp mem busy
      rw [Lookup.find?] at found
      rw [found]
      simp only [if_neg notIdle]
  | .computed found notBusy runs =>
      have ran := runs.run_eq (idles.start host _ _)
      have isIdle := (idles.mem_iff found).mpr notBusy
      rw [Lookup.find?] at found
      rw [Lookup.start] at ran
      rw [found]
      simp only [if_pos isIdle, run_compute, ran]
      rfl
  | .failed found notBusy runs =>
      have ran := runs.run_eq (idles.start host _ _)
      have isIdle := (idles.mem_iff found).mpr notBusy
      rw [Lookup.find?] at found
      rw [Lookup.start] at ran
      rw [found]
      simp only [if_pos isIdle, run_compute, ran]
      rfl
termination_by structural gets

theorem Runs.run_eq {host : Host} {script : Script} {l after : Lookup}
    {outcome : Except Fault Value} {trace : List Answer} {idle : List String}
    (runs : Runs host script l outcome after trace) (idles : Idles l idle) :
    (script.run fun other mode => readKept host idle (mode.target other) mode).run.run l.memory =
      (outcome, after.memory) := by
  match runs with
  | .done => rfl
  | .fail => rfl
  | .read first rest =>
      have second := rest.run_eq (idles.of_account first.account)
      rw [run_script_read, first.run_eq idles]
      exact second
termination_by structural runs

end

/-- While nothing is being computed, these are the reads of the guard. -/
theorem Gets.run_read {host : Host} {l after : Lookup} {name : String} {mode : ReadMode}
    {outcome : Except Fault Value} {trace : List Answer}
    (gets : Gets host l name mode outcome after trace) (nothing : l.busy = ∅) :
    (read host name mode).run.run l.memory = (outcome, after.memory) := by
  have pending : l.idle = l.memory.vars.pendingNames := by
    rw [Lookup.idle, nothing]
    exact List.filter_eq_self.mpr fun name _ => decide_eq_true (Finset.notMem_empty name)
  rw [read, run_get_bind, ← pending]
  exact gets.run_eq (.self l)

/-! ## Every read ends -/

/-- A script comes to an end if its reads do. -/
theorem exists_runs {host : Host} {idle : List String}
    (reads : ∀ name mode l, Idles l idle →
      ∃ outcome after trace, Gets host l name mode outcome after trace)
    (script : Script) {l : Lookup} (idles : Idles l idle) :
    ∃ outcome after trace, Runs host script l outcome after trace := by
  induction script generalizing l with
  | done v => exact ⟨_, _, _, .done⟩
  | fail f => exact ⟨_, _, _, .fail⟩
  | read name mode next ih =>
      obtain ⟨outcome, middle, trace, first⟩ := reads name mode l idles
      obtain ⟨result, after, later, rest⟩ := ih outcome (idles.of_account first.account)
      exact ⟨result, after, trace ++ later, .read first rest⟩

theorem exists_gets_of_idles (host : Host) (idle : List String) {kept : String} {mode : ReadMode}
    {name : String} (target : mode.target name = kept) {l : Lookup} (idles : Idles l idle) :
    ∃ outcome after trace, Gets host l name mode outcome after trace := by
  induction idle, kept, mode using readKept.induct generalizing l name with
  | case1 idle kept mode ih =>
      subst target
      cases found : l.find? (mode.target name) with
      | none =>
          by_cases strict : mode = .strict
          · subst strict
            exact ⟨_, _, _, .unset found⟩
          · exact ⟨_, _, _, .undefined found strict⟩
      | some entry =>
          cases entry with
          | value v => exact ⟨_, _, _, .value found⟩
          | pending c =>
              by_cases busy : mode.target name ∈ l.busy
              · exact ⟨_, _, _, .circular found busy⟩
              · -- The names that are idle during the computation are fewer.
                have isIdle := (idles.mem_iff found).mpr busy
                have reads : ∀ other (mode' : ReadMode) k, Idles k (idle.erase (mode.target name)) →
                    ∃ outcome after trace, Gets host k other mode' outcome after trace :=
                  fun other mode' k idles => ih isIdle other mode' rfl idles
                obtain ⟨outcome, after, trace, runs⟩ :=
                  exists_runs reads (scriptFor host c l.memory).1 (idles.start host c _)
                cases outcome with
                | ok v => exact ⟨_, _, _, .computed found busy runs⟩
                | error f => exact ⟨_, _, _, .failed found busy runs⟩

theorem exists_gets (host : Host) (l : Lookup) (name : String) (mode : ReadMode) :
    ∃ outcome after trace, Gets host l name mode outcome after trace :=
  exists_gets_of_idles host l.idle rfl (.self l)

theorem exists_getsAll (host : Host) (l : Lookup) (reads : List (String × ReadMode)) :
    ∃ outcomes after trace, GetsAll host l reads outcomes after trace := by
  induction reads generalizing l with
  | nil => exact ⟨_, _, _, .nil⟩
  | cons read reads ih =>
      obtain ⟨outcome, middle, trace, first⟩ := exists_gets host l read.1 read.2
      obtain ⟨outcomes, after, later, rest⟩ := ih middle
      exact ⟨_, _, _, .cons first rest⟩

theorem GetsAll.account {host : Host} {l after : Lookup} {reads : List (String × ReadMode)}
    {outcomes : List (Except Fault Value)} {trace : List Answer}
    (gets : GetsAll host l reads outcomes after trace) : Account l after trace := by
  induction gets with
  | nil => exact .nil
  | cons first rest ih => exact first.account.append ih

/-! ## Reads only memoize -/

/-- Between two lookups, pending variables have got values and nothing else has changed.  The
variable that was read has the value that was given for it, or is as it was. -/
structure OnlyMemoizes (before after : Lookup) (name : String) (outcome : Except Fault Value) :
    Prop where
  busy : after.busy = before.busy
  names : after.memory.vars.keys = before.memory.vars.keys
  values : ∀ other v, before.find? other = some (.value v) → after.find? other = some (.value v)
  changes : ∀ other, after.find? other ≠ before.find? other →
    ∃ c v, before.find? other = some (.pending c) ∧ after.find? other = some (.value v)
  ok : ∀ v e, outcome = .ok v → after.find? name = some e → e = .value v
  error : ∀ f, outcome = .error f → after.find? name = before.find? name

theorem Settles.keys_eq {before after : Variables} (settles : Settles before after) :
    after.keys = before.keys := by
  have ordered : ∀ vs : Variables, vs.keys.Pairwise fun a b => compare a b = .lt := by
    intro vs
    rw [Dictionary.keys, List.pairwise_map]
    exact vs.ordered
  refine eq_of_pairwise_lt id (ordered after) (ordered before) fun name => ?_
  rw [Dictionary.mem_keys_iff, Dictionary.mem_keys_iff]
  rcases settles name with same | ⟨c, v, pending, value⟩
  · rw [same]
  · rw [pending, value]
    exact iff_of_true ⟨_, rfl⟩ ⟨_, rfl⟩

theorem Gets.onlyMemoizes {host : Host} {before after : Lookup} {name : String} {mode : ReadMode}
    {outcome : Except Fault Value} {trace : List Answer}
    (gets : Gets host before name mode outcome after trace) :
    OnlyMemoizes before after (mode.target name) outcome := by
  have account := gets.account
  refine ⟨account.busy, account.settles.keys_eq, fun other v => account.value, ?_, ?_, ?_⟩
  · intro other changed
    exact (account.settles other).resolve_left changed
  · intro v e same found
    cases gets with
    | value value =>
        cases same
        exact Option.some.inj (found.symm.trans value)
    | unset _ => cases same
    | undefined missing _ => cases found.symm.trans missing
    | circular _ _ => cases same
    | computed _ _ _ =>
        cases same
        rw [Lookup.find?_give, if_pos rfl] at found
        exact (Option.some.inj found).symm
    | failed _ _ _ => cases same
  · intro f same
    cases gets with
    | value _ => cases same
    | unset _ => rfl
    | undefined _ _ => cases same
    | circular _ _ => rfl
    | computed _ _ _ => cases same
    | failed found notBusy runs =>
        obtain ⟨-, pending, -⟩ := runs.account.of_start found notBusy
        exact pending.trans found.symm

/-- A read of a variable that has a value finds it, and that is all. -/
theorem Gets.eq_of_value {host : Host} {before after : Lookup} {name : String} {mode : ReadMode}
    {outcome : Except Fault Value} {trace : List Answer} {v : Value}
    (gets : Gets host before name mode outcome after trace)
    (value : before.find? (mode.target name) = some (.value v)) :
    outcome = .ok v ∧ after = before := by
  cases gets with
  | value found =>
      cases value.symm.trans found
      exact ⟨rfl, rfl⟩
  | unset found => cases value.symm.trans found
  | undefined found _ => cases value.symm.trans found
  | circular found _ => cases value.symm.trans found
  | computed found _ _ => cases value.symm.trans found
  | failed found _ _ => cases value.symm.trans found

/-- Every read ends, as the read without marks does, and whatever the host does on its way, it
only memoizes.  In a row of reads, no read computes a variable that was computed with success
before: all of them find its value, and so does any further read, without a change. -/
theorem reads_only_memoize (host : Host) :
    (∀ before name mode, ∃ outcome after trace, Gets host before name mode outcome after trace) ∧
    (∀ {before name mode outcome after trace}, Gets host before name mode outcome after trace →
      (readKept host before.idle (mode.target name) mode).run.run before.memory =
          (outcome, after.memory) ∧
        (before.busy = ∅ → (read host name mode).run.run before.memory = (outcome, after.memory)) ∧
        OnlyMemoizes before after (mode.target name) outcome) ∧
    (∀ before reads, ∃ outcomes after trace, GetsAll host before reads outcomes after trace) ∧
    ∀ {before reads outcomes after trace}, GetsAll host before reads outcomes after trace →
      (trace.Pairwise fun a b => ∀ v, a.Gives v → b.name = a.name →
        b.outcome = .ok v ∧ b.computed = false) ∧
      ∀ a ∈ trace, ∀ v, a.Gives v → ∀ {name mode outcome last more}, mode.target name = a.name →
        Gets host after name mode outcome last more → outcome = .ok v ∧ last = after := by
  refine ⟨exists_gets host,
    fun gets => ⟨gets.run_eq (.self _), gets.run_read, gets.onlyMemoizes⟩,
    exists_getsAll host, fun {_ _ _ after _} gets => ⟨gets.account.once, ?_⟩⟩
  intro a mem v gives name mode outcome last more target further
  obtain ⟨-, -, value⟩ := gets.account.given a mem v gives
  exact further.eq_of_value (target ▸ value)

/-- A host that goes on when the name of a user is not set is asked for the age once. -/
theorem reads_only_memoize_of_recovering :
    let host : Host := fun _ _ => .read "user_name" .strict fun _ => .done (.int 42)
    let before : Lookup :=
      ⟨⟨⟨[("user_age", .pending ⟨.host .userAge, []⟩)], List.pairwise_singleton _ _⟩, []⟩, ∅⟩
    ∃ after trace, Gets host before "USER_AGE" .strict (.ok (.int 42)) after trace ∧
      OnlyMemoizes before after (ReadMode.strict.target "USER_AGE") (.ok (.int 42)) ∧
      ∀ {outcome last more}, Gets host after "user_age" .lax outcome last more →
        outcome = .ok (.int 42) ∧ last = after := by
  intro host before
  have kept : ReadMode.strict.target "USER_AGE" = "user_age" := by decide +kernel
  have keptAgain : ReadMode.lax.target "user_age" = "user_age" := by decide +kernel
  have pending : before.find? "user_age" = some (.pending ⟨.host .userAge, []⟩) :=
    Dictionary.mem_entries_iff.mp (List.mem_singleton.mpr rfl)
  have missing : (before.start host ⟨.host .userAge, []⟩ (ReadMode.strict.target "USER_AGE")).find?
      (ReadMode.strict.target "user_name") = none := by
    decide +kernel
  have gets : Gets host before "USER_AGE" .strict (.ok (.int 42)) _ _ :=
    .computed (kept ▸ pending) (Finset.notMem_empty _) (.read (.unset missing) .done)
  have all := reads_only_memoize host
  refine ⟨_, _, gets, (all.2.1 gets).2.2, fun further => ?_⟩
  have row := (all.2.2.2 (.cons gets .nil)).2
  exact row ⟨ReadMode.strict.target "USER_AGE", .ok (.int 42), true⟩ (by simp) (.int 42)
    ⟨rfl, rfl⟩ (keptAgain.trans kept.symm) further

end EditGuard.Variable
