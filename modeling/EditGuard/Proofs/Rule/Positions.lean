import EditGuard.Proofs.Rule.Cutting
import EditGuard.Proofs.Rule.Relocation
import EditGuard.Proofs.Rule.Sites

/-!
# Positions and quotations agree

Whatever is wrong with a rule is reported at a place of its text: between two characters, with
the number of characters before it as position, and with a quotation of the line around it.
The places come from the lexer, the parser passes them on to nodes and problems, and a check
and an evaluation report at nodes.
-/

namespace EditGuard.Rule

open Variable (Host)

/-! ## Nodes stand where tokens do -/

theorem Expr.mark_map {α β : Type} (f : α → β) (e : Expr α) : (e.map f).mark = f e.mark := by
  cases e <;> rfl

theorem Expr.operands_map {α β : Type} (f : α → β) (e : Expr α) :
    (e.map f).operands = e.operands.map (Expr.map f) := by
  cases e with
  | conditional _ _ _ no => cases no <;> rfl
  | indexAssign _ _ position _ => cases position <;> rfl
  | list | call | sequence => exact Parser.mapAll_eq_map f _
  | _ => rfl

/-- A change of marks that leaves an expression alone leaves the marks of its parts alone. -/
theorem mark_of_map_eq {f : Span → Span} {e d : Rule} (inside : Within e d)
    (same : e.map f = e) : f d.mark = d.mark := by
  induction inside with
  | @root e =>
      have root := Expr.mark_map f e
      rw [same] at root
      exact root.symm
  | @part e d c member inside ih =>
      apply ih
      have operands := Expr.operands_map f e
      rw [same] at operands
      exact List.map_inj_left.mp (operands.symm.trans (List.map_id _).symm) d member

/-- The places that tokens give: where they begin, and the end of the rule. -/
def Tokens.starts (ts : Tokens) : List Mark :=
  ts.finish :: ts.tokens.map fun t => t.span.start

theorem Relocation.mem_of_mark_fixing {kept : List Mark} {m : Mark}
    (same : (fixing kept).mark m = m) : m ∈ kept := by
  apply Decidable.byContradiction
  intro other
  have moved := congrArg Mark.index same
  simp only [fixing, if_neg other] at moved
  omega

theorem Relocation.mark_fixing {kept : List Mark} {m : Mark} (mem : m ∈ kept) :
    (fixing kept).mark m = m :=
  if_pos mem

theorem Relocation.tokens_fixing (ts : Tokens) : (fixing ts.starts).tokens ts = ts := by
  have finish : (fixing ts.starts).mark ts.finish = ts.finish := mark_fixing List.mem_cons_self
  have tokens : ts.tokens.map (fixing ts.starts).token = ts.tokens := by
    refine (List.map_congr_left fun t mem => ?_).trans (List.map_id _)
    have start : (fixing ts.starts).mark t.span.start = t.span.start :=
      mark_fixing (List.mem_cons_of_mem _ (List.mem_map_of_mem mem))
    rw [token, span, start]
    rfl
  rw [Relocation.tokens, finish, tokens]

/-- What is read of tokens has the places that they give. -/
theorem Parser.parse_fixing (ts : Tokens) :
    ts.parse =
      (Relocation.fixing ts.starts).outcome (Relocation.fixing ts.starts).rule ts.parse := by
  have moved := parse_moved (Relocation.fixing ts.starts) ts
  rwa [Relocation.tokens_fixing] at moved

/-- Every node begins where a token does, or at the end of the rule. -/
theorem Parser.start_mem_of_parse {ts : Tokens} {rule d : Rule} (parsed : ts.parse = .ok rule)
    (inside : Within rule d) : d.mark.start ∈ ts.starts := by
  have fixed := parse_fixing ts
  rw [parsed] at fixed
  have same : rule.map (Relocation.fixing ts.starts).span = rule := (Except.ok.inj fixed).symm
  exact Relocation.mem_of_mark_fixing (congrArg Span.start (mark_of_map_eq inside same))

/-- What cannot be read is reported where a token begins, or at the end of the rule. -/
theorem Parser.start_mem_of_error {ts : Tokens} {f : Finding} (failed : ts.parse = .error f) :
    f.span.start ∈ ts.starts := by
  have fixed := parse_fixing ts
  rw [failed] at fixed
  have same : f.span = (Relocation.fixing ts.starts).span f.span :=
    congrArg Finding.span (Except.error.inj fixed)
  exact Relocation.mem_of_mark_fixing (congrArg Span.start same.symm)

/-! ## Places of findings -/

namespace Source

variable {s : Source} {ts : Tokens}

/-- A finding has the number of characters before its place as position, and its report quotes
the line around the place, with the caret under it. -/
def Reports (s : Source) (f : Finding) : Prop :=
  ∃ before after, s.Located before after f.span.start ∧ f.position = before.length ∧
    f.report s = f.problem.message.text ++
      caretQuote s.name (1 + before.count '\n') (1 + (Text.lead before).length)
        (String.ofList (Text.lineAround before after))

theorem Locates.reports {f : Finding} (locates : s.Locates f.span.start) : s.Reports f := by
  obtain ⟨before, after, located⟩ := locates
  refine ⟨before, after, located, located.index, ?_⟩
  rw [Finding.report, Source.quote, located.quoted]

theorem locates_of_mem_starts (read : s.tokens = .ok ts) {m : Mark} (mem : m ∈ ts.starts) :
    s.Locates m := by
  obtain ⟨l, text, scans⟩ := exists_layout read
  rcases List.mem_cons.mp mem with rfl | mem
  · rw [scans.finish_eq, text]
    exact ⟨_, [], located_after (List.append_nil _).symm nofun⟩
  · obtain ⟨t, isToken, rfl⟩ := List.mem_map.mp mem
    obtain ⟨before, first, cs, after, same, visible, -, span⟩ := scans.exists_place isToken
    rw [span]
    refine ⟨before, first :: cs ++ after, located_after ?_ ?_⟩
    · rw [← text, same, List.append_assoc]
    · rintro ⟨⟩
      cases visible

theorem tokens_of_parse {rule : Rule} (parsed : s.parse = .ok rule) :
    ∃ ts, s.tokens = .ok ts ∧ ts.parse = .ok rule :=
  exists_of_bind_eq_ok parsed

theorem locates_of_parse_error {f : Finding} (failed : s.parse = .error f) :
    s.Locates f.span.start := by
  cases read : s.tokens with
  | error g =>
      rw [Source.parse, read] at failed
      cases failed
      exact locates_of_tokens read
  | ok ts =>
      rw [Source.parse, read] at failed
      exact locates_of_mem_starts read (Parser.start_mem_of_error failed)

/-- All nodes of a rule stand at places of its text. -/
theorem marked_of_parse {rule : Rule} (parsed : s.parse = .ok rule) :
    Marked (fun span => s.Locates span.start) rule := by
  intro d inside
  obtain ⟨ts, read, parsed⟩ := tokens_of_parse parsed
  exact locates_of_mem_starts read (Parser.start_mem_of_parse parsed inside)

theorem locates_of_check_error {f : Finding} (failed : s.check = .error f) :
    s.Locates f.span.start := by
  cases parsed : s.parse with
  | error g =>
      rw [Source.check, parsed] at failed
      cases failed
      exact locates_of_parse_error parsed
  | ok rule =>
      rw [Source.check, parsed] at failed
      exact mark_of_check (marked_of_parse parsed) failed

/-- Positions and quotations agree about every place that is reported: where a text cannot be
cut, read or checked, where the evaluation of a rule finds something wrong, and where tokens
and nodes begin. -/
theorem positions_agree (s : Source) :
    (∀ f, s.tokens = .error f → s.Reports f) ∧
    (∀ f, s.parse = .error f → s.Reports f) ∧
    (∀ f, s.check = .error f → s.Reports f) ∧
    (∀ rule (host : Host) st t f, s.parse = .ok rule →
      (evaluate host rule).run.run st = (.error (.finding f), t) → s.Reports f) ∧
    (∀ ts, s.tokens = .ok ts →
      s.Locates ts.finish ∧ ∀ t ∈ ts.tokens, s.Locates t.span.start) ∧
    ∀ rule, s.parse = .ok rule → ∀ d, Within rule d → s.Locates d.mark.start := by
  refine ⟨?_, ?_, ?_, ?_, ?_, ?_⟩
  · intro f failed
    exact (locates_of_tokens failed).reports
  · intro f failed
    exact (locates_of_parse_error failed).reports
  · intro f failed
    exact (locates_of_check_error failed).reports
  · intro rule host st t f parsed ran
    exact (mark_of_evaluate (marked_of_parse parsed) ran : s.Locates f.span.start).reports
  · intro ts read
    refine ⟨locates_of_mem_starts read List.mem_cons_self, ?_⟩
    intro t mem
    exact locates_of_mem_starts read (List.mem_cons_of_mem _ (List.mem_map_of_mem mem))
  · intro rule parsed
    exact marked_of_parse parsed

/-- A rule with a code that is none in the literal on its second line. -/
def misquoted : Source :=
  ⟨"misquoted", "a := 'é';\r\n/* è */ b := '\\xzz'\r\n"⟩

theorem positions_agree_misquoted :
    ∃ f, misquoted.tokens = .error f ∧ f.span.start.line = 2 ∧ misquoted.Reports f := by
  have stuck : (match misquoted.tokens with
    | .ok _ => false
    | .error f => f.span.start.line == 2) = true := by decide +kernel
  cases cut : misquoted.tokens with
  | ok ts =>
      rw [cut] at stuck
      cases stuck
  | error f =>
      rw [cut] at stuck
      exact ⟨f, rfl, eq_of_beq stuck, (positions_agree misquoted).1 f cut⟩

end Source

end EditGuard.Rule
